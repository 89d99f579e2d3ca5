import GrpcEgress.Builder.Options
import GrpcEgress.Lib.Runs

/-!
# A channel configuration and its settings

`with_channel_config` sets several options at once, as if each had been set with its own
method. `oneByOne` does set each with its own method. The two agree on everything but the
accepted compression: `with_accept_compression` adds an encoding, and a configuration that
names one replaces what was accepted before (`withChannelConfig_eq`).

1. `asIfOneByOne_iff`: one configuration;
2. `configured_oneByOne`: any calls of a builder, by the step of one call;
3. `channel_config_one_by_one`.
-/

namespace GrpcEgress

namespace GrpcEgressBuilderImpl

variable (b : GrpcEgressBuilderImpl) (config : GrpcChannelConfig)

/-- The settings of a configuration, each with its own method. There is none that takes the
plaintext permission back and none that names files; those two settings are set directly. -/
def oneByOne : GrpcEgressBuilderImpl :=
  let b := b.withEndpoint config.endpoint
  let b := { b with plaintextAllowed := !config.tlsRequired }
  let b := config.requestTimeoutSecs.elim b fun secs => b.withRequestTimeout (.fromSecs secs)
  let b := b.withMaxDecodingMessageSize config.maxMessageBytes
  let b := b.withMaxEncodingMessageSize config.maxMessageBytes
  let b := (readCompression config.compression).elim b fun compression =>
    (b.withSendCompression compression).withAcceptCompression compression
  let b := config.mtls.elim b fun mtls => { b with tls := some (.files mtls) }
  config.keepAlive.elim b b.withKeepAlive

/-- The encodings that are accepted after a configuration. -/
def acceptedAfter : List Compression :=
  (readCompression config.compression).elim b.acceptCompression fun compression => [compression]

/-- Applying a configuration is setting its settings one by one: an encoding that was
accepted still is, and a method called afterwards sets its own setting and no other. -/
structure AsIfOneByOne : Prop where
  same : b.withChannelConfig config = b.oneByOne config
  accepted : ∀ compression ∈ b.acceptCompression,
    compression ∈ (b.withChannelConfig config).acceptCompression
  others : ∀ (option : BuilderOption) (setting : Setting), setting ≠ option.setting →
    setting.Same (option.apply (b.withChannelConfig config)) (b.withChannelConfig config)
  overrides : ∀ option : BuilderOption, option.adds = false → ∀ b',
    option.setting.Same (option.apply (b.withChannelConfig config)) (option.apply b')

/-- The configuration names no encoding, or none was accepted before. -/
def NoneReplaced : Prop := config.compression = .none ∨ b.acceptCompression = []

variable {b config}

theorem readCompression_eq_none {mode : CompressionMode} :
    readCompression mode = none ↔ mode = .none := by
  cases mode <;> simp [readCompression]

theorem oneByOne_acceptCompression : (b.oneByOne config).acceptCompression =
    b.acceptCompression ++ (readCompression config.compression).toList := by
  unfold oneByOne
  cases config.requestTimeoutSecs <;> cases readCompression config.compression <;>
    cases config.mtls <;> cases config.keepAlive <;>
    first
      | rfl
      | exact (List.append_nil _).symm

theorem withChannelConfig_acceptCompression :
    (b.withChannelConfig config).acceptCompression = b.acceptedAfter config := by
  unfold withChannelConfig acceptedAfter
  cases readCompression config.compression <;> rfl

/-- Whatever was set before, a configuration comes to its settings one by one, up to the
encodings that are accepted. -/
theorem withChannelConfig_eq (accepted : config.Accepted) : b.withChannelConfig config =
    { b.oneByOne config with acceptCompression := b.acceptedAfter config } := by
  have named : config.endpoint.isEmpty = false := by
    cases empty : config.endpoint.isEmpty with
    | false => rfl
    | true =>
      have unnamed := GrpcChannelConfig.accepted_iff.mp accepted
      rw [String.isEmpty_iff.mp empty] at unnamed
      exact absurd rfl unnamed
  unfold withChannelConfig oneByOne acceptedAfter
  rw [named, Bool.not_false, Bool.or_true]
  cases config.requestTimeoutSecs <;> cases readCompression config.compression <;>
    cases config.mtls <;> cases config.keepAlive <;> rfl

theorem withChannelConfig_eq_oneByOne_iff (accepted : config.Accepted) :
    b.withChannelConfig config = b.oneByOne config ↔ b.NoneReplaced config := by
  have lists : b.withChannelConfig config = b.oneByOne config ↔ b.acceptedAfter config =
      b.acceptCompression ++ (readCompression config.compression).toList := by
    rw [withChannelConfig_eq accepted, ← oneByOne_acceptCompression]
    constructor
    · exact congrArg acceptCompression
    · intro same
      rw [same]
  rw [lists, NoneReplaced, ← readCompression_eq_none]
  unfold acceptedAfter
  cases readCompression config.compression with
  | none => simp
  | some compression => simp

/-- An encoding stays accepted iff the configuration names that one or none. -/
theorem accepted_after_iff : (∀ compression ∈ b.acceptCompression,
      compression ∈ (b.withChannelConfig config).acceptCompression) ↔
    ∀ compression ∈ b.acceptCompression, config.compression = .none ∨
      readCompression config.compression = some compression := by
  rw [withChannelConfig_acceptCompression, acceptedAfter]
  refine forall₂_congr fun compression member => ?_
  rw [← readCompression_eq_none]
  cases readCompression config.compression with
  | none => simpa using member
  | some named => simp [eq_comm]

theorem asIfOneByOne_iff (accepted : config.Accepted) :
    b.AsIfOneByOne config ↔ b.NoneReplaced config := by
  rw [← withChannelConfig_eq_oneByOne_iff accepted]
  constructor
  · intro holds
    exact holds.same
  · intro same
    refine ⟨same, fun compression member => ?_,
      fun option setting other => option.apply_same _ other,
      fun option sets b' => BuilderOption.apply_sets sets _ b'⟩
    rw [same, oneByOne_acceptCompression]
    exact List.mem_append_left _ member

end GrpcEgressBuilderImpl

/-! ## Any calls -/

namespace WithCall

/-- A call, with the settings of a configuration one by one. -/
def applyOneByOne (b : GrpcEgressBuilderImpl) : WithCall → GrpcEgressBuilderImpl
  | .single option => option.apply b
  | .channelConfig config => b.oneByOne config

/-- A configuration that `try_new` accepted and that replaces no accepted encoding. -/
def KeepsAccepted (b : GrpcEgressBuilderImpl) : WithCall → Prop
  | .single _ => True
  | .channelConfig config => config.Accepted ∧ b.NoneReplaced config

theorem apply_oneByOne {b : GrpcEgressBuilderImpl} {call : WithCall}
    (keeps : call.KeepsAccepted b) : call.apply b = call.applyOneByOne b := by
  cases call with
  | single option => rfl
  | channelConfig config =>
    obtain ⟨accepted, noneReplaced⟩ := keeps
    exact (GrpcEgressBuilderImpl.withChannelConfig_eq_oneByOne_iff accepted).mpr noneReplaced

end WithCall

theorem configured_oneByOne {endpoint : String} {calls : List WithCall}
    (keeps : Runs.AllSteps (fun b call => some (WithCall.apply b call))
      (fun b call => call.KeepsAccepted b) (.ofEndpoint endpoint) calls) :
    configured endpoint calls = calls.foldl WithCall.applyOneByOne (.ofEndpoint endpoint) := by
  have same := Runs.run_congr_of
    (fun b call keeps => congrArg some (WithCall.apply_oneByOne keeps)) keeps
  rw [Runs.run_total, Runs.run_total] at same
  exact Option.some.inj same

namespace ChannelConfigExample

/-- A configuration that names an encoding. -/
def zstd : GrpcChannelConfig :=
  ⟨"https://a.example", true, none, none, 1024, .zstd, some 5, by decide, by decide⟩

theorem zstd_accepted : zstd.Accepted :=
  ⟨"https://a.example", true, none, none, 1024, .zstd, some 5, rfl⟩

/-- One that names none. -/
def plain : GrpcChannelConfig :=
  ⟨"https://a.example", true, none, none, 1024, .none, some 5, by decide, by decide⟩

theorem plain_accepted : plain.Accepted :=
  ⟨"https://a.example", true, none, none, 1024, .none, some 5, rfl⟩

/-- A builder that already accepts another one, and plaintext. -/
def gzip : GrpcEgressBuilderImpl :=
  configured "http://b.example" [.single .plaintextAllowed, .single (.acceptCompression .gzip)]

/-- Calls before the configuration and after it. -/
def used : List WithCall :=
  [.single .plaintextAllowed, .single (.acceptCompression .gzip), .channelConfig plain,
    .single (.acceptCompression .zstd)]

end ChannelConfigExample

/-- Applying a configuration is setting its settings one by one iff it names no encoding or
none was accepted before; it differs in the accepted encodings only, and one of them is lost
iff the configuration names another one. So calls of a builder, in any order, can be spelled
out setting by setting while every configuration among them replaces no encoding. -/
theorem channel_config_one_by_one (b : GrpcEgressBuilderImpl) (config : GrpcChannelConfig)
    (accepted : config.Accepted) :
    (b.AsIfOneByOne config ↔ config.compression = .none ∨ b.acceptCompression = []) ∧
    b.withChannelConfig config =
      { b.oneByOne config with acceptCompression := b.acceptedAfter config } ∧
    ((∀ compression ∈ b.acceptCompression,
        compression ∈ (b.withChannelConfig config).acceptCompression) ↔
      ∀ compression ∈ b.acceptCompression, config.compression = .none ∨
        GrpcEgressBuilderImpl.readCompression config.compression = some compression) ∧
    (∀ (endpoint : String) (calls : List WithCall),
      Runs.AllSteps (fun b call => some (WithCall.apply b call))
        (fun b call => call.KeepsAccepted b) (.ofEndpoint endpoint) calls →
      configured endpoint calls =
        calls.foldl WithCall.applyOneByOne (.ofEndpoint endpoint)) := by
  refine ⟨?_, ?_, ?_, fun endpoint calls => configured_oneByOne⟩
  · exact GrpcEgressBuilderImpl.asIfOneByOne_iff accepted
  · exact GrpcEgressBuilderImpl.withChannelConfig_eq accepted
  · exact GrpcEgressBuilderImpl.accepted_after_iff

open ChannelConfigExample in
/-- `channel_config_one_by_one` for a builder on which options were set before, and for calls
after it as well. -/
theorem channel_config_one_by_one_used : gzip.AsIfOneByOne plain ∧
    (gzip.withChannelConfig plain).acceptCompression = [.gzip] ∧
    (gzip.withChannelConfig plain).plaintextAllowed = false ∧
    (gzip.withChannelConfig plain).endpoint = "https://a.example" ∧
    configured "http://b.example" used = used.foldl WithCall.applyOneByOne
      (.ofEndpoint "http://b.example") := by
  obtain ⟨one, differs, -, all⟩ := channel_config_one_by_one gzip plain plain_accepted
  have keeps : Runs.AllSteps (fun b call => some (WithCall.apply b call))
      (fun b call => call.KeepsAccepted b) (.ofEndpoint "http://b.example") used :=
    ⟨trivial, trivial, ⟨plain_accepted, .inl rfl⟩, trivial, trivial⟩
  exact ⟨one.mpr (.inl rfl), congrArg (·.acceptCompression) differs,
    congrArg (·.plaintextAllowed) differs, congrArg (·.endpoint) differs, all _ _ keeps⟩

open ChannelConfigExample in
/-- Gzip was accepted before the configuration and is not afterwards. -/
theorem channel_config_drops_accepted : zstd.Accepted ∧ ¬gzip.AsIfOneByOne zstd ∧
    gzip.acceptCompression = [.gzip] ∧
    (gzip.withChannelConfig zstd).acceptCompression = [.zstd] ∧
    (gzip.oneByOne zstd).acceptCompression = [.gzip, .zstd] := by
  refine ⟨zstd_accepted, fun holds => ?_, rfl, rfl, rfl⟩
  have kept : Compression.gzip ∈ (gzip.withChannelConfig zstd).acceptCompression :=
    holds.accepted .gzip List.mem_cons_self
  exact absurd kept (by decide)

end GrpcEgress
