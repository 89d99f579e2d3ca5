import GrpcEgress.Auth.Bearer
import GrpcEgress.Builder.Build
import GrpcEgress.Lib.Checked
import GrpcEgress.Lib.Setters

/-!
# The builders of configurations

`StdGrpcChannelConfigBuilder` and `StdBearerEgressConfigBuilder`. A method sets one option
and remembers nothing else, so what is built is decided by the last call of each method.

1. `channel_configs`: the channel. TLS is required until `allow_plaintext` is called, which
   nothing takes back, and a timeout is never the reason why nothing is built;
2. `bearer_configs`: the signing of tokens. All five values are required, and the first one
   that is missing is named.
-/

namespace GrpcEgress

/-! ## The channel -/

/-- `as_secs`: the whole seconds. -/
def Duration.asSecs (d : Duration) : UInt64 := UInt64.ofNat (d.nanos / 1000000000)

theorem Duration.asSecs_fromSecs (secs : UInt64) : (Duration.fromSecs secs).asSecs = secs := by
  have whole : secs.toNat * 1000000000 / 1000000000 = secs.toNat :=
    Nat.mul_div_cancel _ (by decide)
  simp only [asSecs, fromSecs, whole, UInt64.ofNat_toNat]

theorem u64_one_ne_zero : (1 : UInt64) ≠ 0 := by decide

theorem u64_max_one_ne_zero (x : UInt64) : max x 1 ≠ 0 := by
  have larger : max x 1 = if x ≤ 1 then 1 else x := rfl
  rw [larger]
  split
  · exact u64_one_ne_zero
  · next more =>
    rintro rfl
    exact more (by decide)

theorem u64_max_one_eq {x : UInt64} (positive : x ≠ 0) : max x 1 = x := by
  have larger : max x 1 = if x ≤ 1 then 1 else x := rfl
  have one_le : 1 ≤ x.toNat := Nat.one_le_iff_ne_zero.mpr fun zero =>
    positive (UInt64.toNat_inj.mp zero)
  rw [larger]
  split
  · next le => exact UInt64.toNat_inj.mp (Nat.le_antisymm one_le (UInt64.le_iff_toNat_le.mp le))
  · rfl

/-- `DEFAULT_MAX_MESSAGE_BYTES`. -/
def defaultMaxMessageBytes : UInt64 := 4194304

/-- `GrpcChannelConfigData`. -/
structure GrpcChannelConfigData where
  endpoint : String
  tlsRequired : Bool
  mtls : Option MtlsConfig
  keepAlive : Option KeepAliveConfig
  maxMessageBytes : UInt64
  compression : CompressionMode
  requestTimeoutSecs : Option UInt64

namespace GrpcChannelConfig

/-- `try_from`. -/
def tryFrom (data : GrpcChannelConfigData) : Except String GrpcChannelConfig :=
  tryNew data.endpoint data.tlsRequired data.mtls data.keepAlive data.maxMessageBytes
    data.compression data.requestTimeoutSecs

/-- How a configuration is written, which is value by value. -/
def toData (config : GrpcChannelConfig) : GrpcChannelConfigData where
  endpoint := config.endpoint
  tlsRequired := config.tlsRequired
  mtls := config.mtls
  keepAlive := config.keepAlive
  maxMessageBytes := config.maxMessageBytes
  compression := config.compression
  requestTimeoutSecs := config.requestTimeoutSecs

theorem tryFrom_toData {config : GrpcChannelConfig} (named : ¬blank config.endpoint = true) :
    tryFrom config.toData = .ok config := by
  unfold tryFrom tryNew toData
  rw [if_neg named, dif_neg config.maxMessageBytes_pos, dif_neg config.requestTimeoutSecs_pos]

/-- An accepted configuration holds the values it was made of. -/
theorem tryFrom_ok {data : GrpcChannelConfigData} {config : GrpcChannelConfig}
    (made : tryFrom data = .ok config) :
    ¬blank config.endpoint = true ∧ config.toData = data := by
  unfold tryFrom tryNew at made
  split at made
  · cases made
  next named =>
  split at made
  · cases made
  split at made
  · cases made
  · cases made
    exact ⟨named, rfl⟩

/-- `try_new`, and the values of a configuration. It does not make the default one. -/
def checked : Checked GrpcChannelConfigData GrpcChannelConfig String where
  read := tryFrom
  write := toData
  Made := Accepted
  write_read made := ⟨accepted_iff.mpr (tryFrom_ok made).1, (tryFrom_ok made).2⟩
  read_write accepted := tryFrom_toData (accepted_iff.mp accepted)

end GrpcChannelConfig

/-- A call of a method of a `GrpcChannelConfigBuilder`. -/
inductive ChannelConfigCall where
  | endpoint (endpoint : String)
  | allowPlaintext
  | mtls (mtls : MtlsConfig)
  | keepAlive (keepAlive : KeepAliveConfig)
  | maxMessageBytes (bytes : UInt64)
  | compression (mode : CompressionMode)
  | requestTimeout (timeout : Duration)

/-- The options of a channel. -/
inductive ChannelConfigField where
  | endpoint | plaintext | mtls | keepAlive | maxMessageBytes | compression | requestTimeout
deriving DecidableEq

/-- What a call gives an option. -/
def ChannelConfigField.Given : ChannelConfigField → Type
  | .endpoint => String
  | .plaintext => Unit
  | .mtls => MtlsConfig
  | .keepAlive => KeepAliveConfig
  | .maxMessageBytes => UInt64
  | .compression => CompressionMode
  | .requestTimeout => Duration

/-- What the builder keeps of it. -/
def ChannelConfigField.Stored : ChannelConfigField → Type
  | .endpoint => String
  | .plaintext => Unit
  | .mtls => MtlsConfig
  | .keepAlive => KeepAliveConfig
  | .maxMessageBytes => UInt64
  | .compression => CompressionMode
  | .requestTimeout => UInt64

/-- A timeout is kept in whole seconds, one or more. -/
def wholeSecs (timeout : Duration) : UInt64 := max timeout.asSecs 1

@[inherit_doc ChannelConfigField.Stored]
def ChannelConfigField.store : (f : ChannelConfigField) → f.Given → f.Stored
  | .endpoint => fun endpoint => endpoint
  | .plaintext => fun allowed => allowed
  | .mtls => fun mtls => mtls
  | .keepAlive => fun keepAlive => keepAlive
  | .maxMessageBytes => fun bytes => bytes
  | .compression => fun mode => mode
  | .requestTimeout => wholeSecs

/-- The call that gives an option a value. -/
def ChannelConfigCall.make : (f : ChannelConfigField) → f.Given → ChannelConfigCall
  | .endpoint => .endpoint
  | .plaintext => fun _ => .allowPlaintext
  | .mtls => .mtls
  | .keepAlive => .keepAlive
  | .maxMessageBytes => .maxMessageBytes
  | .compression => .compression
  | .requestTimeout => .requestTimeout

/-- The option that a call sets. -/
def ChannelConfigCall.field : ChannelConfigCall → ChannelConfigField
  | .endpoint _ => .endpoint
  | .allowPlaintext => .plaintext
  | .mtls _ => .mtls
  | .keepAlive _ => .keepAlive
  | .maxMessageBytes _ => .maxMessageBytes
  | .compression _ => .compression
  | .requestTimeout _ => .requestTimeout

/-- `StdGrpcChannelConfigBuilder`. -/
structure StdGrpcChannelConfigBuilder where
  endpoint : Option String
  tlsRequired : Bool
  mtls : Option MtlsConfig
  keepAlive : Option KeepAliveConfig
  maxMessageBytes : Option UInt64
  compression : Option CompressionMode
  requestTimeoutSecs : Option UInt64

namespace StdGrpcChannelConfigBuilder

/-- `default`. -/
def default : StdGrpcChannelConfigBuilder := ⟨none, true, none, none, none, none, none⟩

/-- The seven methods. -/
def set (b : StdGrpcChannelConfigBuilder) : ChannelConfigCall → StdGrpcChannelConfigBuilder
  | .endpoint endpoint => { b with endpoint := some endpoint }
  | .allowPlaintext => { b with tlsRequired := false }
  | .mtls mtls => { b with mtls := some mtls }
  | .keepAlive keepAlive => { b with keepAlive := some keepAlive }
  | .maxMessageBytes bytes => { b with maxMessageBytes := some bytes }
  | .compression mode => { b with compression := some mode }
  | .requestTimeout timeout => { b with requestTimeoutSecs := some (wholeSecs timeout) }

/-- `build`. -/
def build (b : StdGrpcChannelConfigBuilder) : Except String GrpcChannelConfig :=
  match b.endpoint with
  | none => .error "endpoint required"
  | some endpoint =>
    GrpcChannelConfig.tryNew endpoint b.tlsRequired b.mtls b.keepAlive
      (b.maxMessageBytes.getD defaultMaxMessageBytes) (b.compression.getD .none)
      b.requestTimeoutSecs

/-- The methods set one option each. -/
def setters : Setters StdGrpcChannelConfigBuilder ChannelConfigCall ChannelConfigField where
  apply := set
  field := ChannelConfigCall.field
  overwrites b c c' same := by
    cases c <;> cases c' <;> first | rfl | cases same
  commutes b c c' other := by
    cases c <;> cases c' <;> first | rfl | exact absurd rfl other

/-- The builder after the calls. -/
def after (calls : List ChannelConfigCall) : StdGrpcChannelConfigBuilder := calls.foldl set default

/-- What is built after the calls. -/
def built (calls : List ChannelConfigCall) : Except String GrpcChannelConfig := (after calls).build

/-! ### What is set -/

/-- An option, if it was set. -/
def get (b : StdGrpcChannelConfigBuilder) : (f : ChannelConfigField) → Option f.Stored
  | .endpoint => b.endpoint
  | .plaintext => if b.tlsRequired then none else some ()
  | .mtls => b.mtls
  | .keepAlive => b.keepAlive
  | .maxMessageBytes => b.maxMessageBytes
  | .compression => b.compression
  | .requestTimeout => b.requestTimeoutSecs

theorem reads (f : ChannelConfigField) :
    setters.Reads (get · f) f (ChannelConfigCall.make f) f.store where
  of_field c mine := by
    subst mine
    cases c with
    | endpoint url => exact ⟨url, rfl⟩
    | allowPlaintext => exact ⟨(), rfl⟩
    | mtls mtls => exact ⟨mtls, rfl⟩
    | keepAlive keepAlive => exact ⟨keepAlive, rfl⟩
    | maxMessageBytes bytes => exact ⟨bytes, rfl⟩
    | compression mode => exact ⟨mode, rfl⟩
    | requestTimeout timeout => exact ⟨timeout, rfl⟩
  get_make b a := by
    cases f <;> rfl
  get_other b c other := by
    cases f <;> cases c <;> first | rfl | exact absurd rfl other

theorem get_default (f : ChannelConfigField) : default.get f = none := by
  cases f <;> rfl

variable {calls : List ChannelConfigCall}

/-- After some calls an option holds what the last call of its method gave. -/
theorem get_after {f : ChannelConfigField} {value : f.Stored} :
    (after calls).get f = some value ↔
      ∃ given, setters.last calls f = some (.make f given) ∧ f.store given = value :=
  (reads f).get_eq_some_iff (get_default f)

theorem get_after_none {f : ChannelConfigField} :
    (after calls).get f = none ↔ setters.last calls f = none :=
  (reads f).get_eq_none_iff (get_default f)

theorem endpoint_after {url : String} :
    (after calls).endpoint = some url ↔ setters.last calls .endpoint = some (.endpoint url) :=
  (@get_after calls .endpoint url).trans exists_eq_right

/-- Nothing takes the permission back. -/
theorem tlsRequired_after : (after calls).tlsRequired = false ↔ .allowPlaintext ∈ calls := by
  have allowed : (after calls).tlsRequired = false ↔
      (after calls).get .plaintext ≠ none := by
    unfold get
    cases (after calls).tlsRequired <;> simp
  rw [allowed, Ne, get_after_none, Setters.last_eq_none_iff]
  constructor
  · intro given
    obtain ⟨c, member, mine⟩ : ∃ c ∈ calls, setters.field c = .plaintext := by
      by_contra absent
      exact given fun c member mine => absent ⟨c, member, mine⟩
    obtain ⟨_, rfl⟩ := (reads .plaintext).of_field c mine
    exact member
  · intro member never
    exact never _ member rfl

theorem built_of_last {calls' : List ChannelConfigCall}
    (same : setters.last calls = setters.last calls') : built calls = built calls' :=
  congrArg build (Setters.foldl_eq_of_last same default)

/-! ### What is built -/

/-- No timeout is refused: the one that is stored is a second or more. -/
theorem timeout_ne_zero : (after calls).requestTimeoutSecs ≠ some 0 := by
  intro zero
  obtain ⟨timeout, -, absent⟩ := (@get_after calls .requestTimeout (0 : UInt64)).mp zero
  exact u64_max_one_ne_zero _ absent

theorem built_of_endpoint {url : String}
    (given : setters.last calls .endpoint = some (.endpoint url)) :
    built calls = GrpcChannelConfig.tryNew url (after calls).tlsRequired (after calls).mtls
      (after calls).keepAlive ((after calls).maxMessageBytes.getD defaultMaxMessageBytes)
      ((after calls).compression.getD .none) (after calls).requestTimeoutSecs := by
  unfold built build
  rw [endpoint_after.mpr given]

theorem getD_maxMessageBytes_eq_zero :
    (after calls).maxMessageBytes.getD defaultMaxMessageBytes = 0 ↔
      setters.last calls .maxMessageBytes = some (.maxMessageBytes 0) := by
  have lastGiven : (after calls).maxMessageBytes = some 0 ↔
      setters.last calls .maxMessageBytes = some (.maxMessageBytes 0) :=
    (@get_after calls .maxMessageBytes (0 : UInt64)).trans exists_eq_right
  rw [← lastGiven]
  cases (after calls).maxMessageBytes with
  | none =>
    constructor
    · intro zero
      exact absurd zero (by decide)
    · intro absent
      cases absent
  | some bytes =>
    constructor
    · intro zero
      exact congrArg some zero
    · intro zero
      exact Option.some.inj zero

/-- What is refused, and why. -/
theorem built_refused_iff {reason : String} : built calls = .error reason ↔
    (setters.last calls .endpoint = none ∧ reason = "endpoint required") ∨
    ∃ url, setters.last calls .endpoint = some (.endpoint url) ∧
      (blank url = true ∧ reason = "endpoint must not be empty" ∨
        ¬blank url = true ∧ setters.last calls .maxMessageBytes = some (.maxMessageBytes 0) ∧
          reason = "max_message_bytes must be >= 1") := by
  cases given : (after calls).endpoint with
  | none =>
    have never := (@get_after_none calls .endpoint).mp given
    unfold built build
    rw [given, never]
    constructor
    · intro refused
      exact .inl ⟨rfl, (Except.error.inj refused).symm⟩
    · rintro (⟨-, rfl⟩ | ⟨url, absent, -⟩)
      · rfl
      · cases absent
  | some url =>
    have lastGiven := endpoint_after.mp given
    rw [built_of_endpoint lastGiven, lastGiven, ← getD_maxMessageBytes_eq_zero]
    unfold GrpcChannelConfig.tryNew
    split
    · next unnamed =>
      constructor
      · intro refused
        exact .inr ⟨url, rfl, .inl ⟨unnamed, (Except.error.inj refused).symm⟩⟩
      · rintro (⟨absent, -⟩ | ⟨url', same, ⟨-, rfl⟩ | ⟨named, -⟩⟩)
        · cases absent
        · rfl
        · cases same
          exact absurd unnamed named
    next named =>
    split
    · next zero =>
      constructor
      · intro refused
        exact .inr ⟨url, rfl, .inr ⟨named, zero, (Except.error.inj refused).symm⟩⟩
      · rintro (⟨absent, -⟩ | ⟨url', same, ⟨unnamed, -⟩ | ⟨-, -, rfl⟩⟩)
        · cases absent
        · cases same
          exact absurd unnamed named
        · rfl
    next nonzero =>
    split
    · next zero => exact absurd zero timeout_ne_zero
    · constructor
      · intro made
        cases made
      · rintro (⟨absent, -⟩ | ⟨url', same, ⟨unnamed, -⟩ | ⟨-, zero, -⟩⟩)
        · cases absent
        · cases same
          exact absurd unnamed named
        · exact absurd zero nonzero

/-- What is built holds what the last calls gave, and the defaults. -/
structure Holds (calls : List ChannelConfigCall) (config : GrpcChannelConfig) : Prop where
  accepted : config.Accepted
  endpoint : setters.last calls .endpoint = some (.endpoint config.endpoint)
  tlsRequired : config.tlsRequired = false ↔ .allowPlaintext ∈ calls
  mtls : ∀ mtls, config.mtls = some mtls ↔ setters.last calls .mtls = some (.mtls mtls)
  keepAlive : ∀ keepAlive, config.keepAlive = some keepAlive ↔
    setters.last calls .keepAlive = some (.keepAlive keepAlive)
  maxMessageBytes : setters.last calls .maxMessageBytes =
      some (.maxMessageBytes config.maxMessageBytes) ∨
    setters.last calls .maxMessageBytes = none ∧ config.maxMessageBytes = defaultMaxMessageBytes
  compression : setters.last calls .compression = some (.compression config.compression) ∨
    setters.last calls .compression = none ∧ config.compression = .none
  requestTimeoutSecs : ∀ secs, config.requestTimeoutSecs = some secs ↔
    ∃ timeout, setters.last calls .requestTimeout = some (.requestTimeout timeout) ∧
      wholeSecs timeout = secs

theorem maxMessageBytes_after :
    let bytes := (after calls).maxMessageBytes.getD defaultMaxMessageBytes
    setters.last calls .maxMessageBytes = some (.maxMessageBytes bytes) ∨
      setters.last calls .maxMessageBytes = none ∧ bytes = defaultMaxMessageBytes := by
  cases given : (after calls).maxMessageBytes with
  | none => exact .inr ⟨(@get_after_none calls .maxMessageBytes).mp given, rfl⟩
  | some bytes =>
    obtain ⟨_, lastGiven, rfl⟩ := (@get_after calls .maxMessageBytes bytes).mp given
    exact .inl lastGiven

theorem compression_after :
    let mode := (after calls).compression.getD .none
    setters.last calls .compression = some (.compression mode) ∨
      setters.last calls .compression = none ∧ mode = .none := by
  cases given : (after calls).compression with
  | none => exact .inr ⟨(@get_after_none calls .compression).mp given, rfl⟩
  | some mode =>
    obtain ⟨_, lastGiven, rfl⟩ := (@get_after calls .compression mode).mp given
    exact .inl lastGiven

theorem holds_of_built {config : GrpcChannelConfig} (made : built calls = .ok config) :
    Holds calls config := by
  cases given : (after calls).endpoint with
  | none =>
    unfold built build at made
    rw [given] at made
    cases made
  | some url =>
    have lastGiven := endpoint_after.mp given
    rw [built_of_endpoint lastGiven] at made
    obtain ⟨named, data⟩ := @GrpcChannelConfig.tryFrom_ok ⟨_, _, _, _, _, _, _⟩ config made
    cases config
    cases data
    exact {
      accepted := GrpcChannelConfig.accepted_iff.mpr named
      endpoint := lastGiven
      tlsRequired := tlsRequired_after
      mtls := fun mtls => (@get_after calls .mtls mtls).trans exists_eq_right
      keepAlive := fun keepAlive => (@get_after calls .keepAlive keepAlive).trans exists_eq_right
      maxMessageBytes := maxMessageBytes_after
      compression := compression_after
      requestTimeoutSecs := fun secs => @get_after calls .requestTimeout secs }

/-- The calls that set every option of a configuration. -/
def callsOf (config : GrpcChannelConfig) : List ChannelConfigCall :=
  [.endpoint config.endpoint, .maxMessageBytes config.maxMessageBytes,
      .compression config.compression] ++
    (if config.tlsRequired then [] else [.allowPlaintext]) ++
    (config.mtls.map .mtls).toList ++ (config.keepAlive.map .keepAlive).toList ++
    (config.requestTimeoutSecs.map fun secs => .requestTimeout (.fromSecs secs)).toList

theorem callsOf_once (config : GrpcChannelConfig) :
    ((callsOf config).map setters.field).Nodup := by
  unfold callsOf
  cases config.tlsRequired <;> cases config.mtls <;> cases config.keepAlive <;>
    cases config.requestTimeoutSecs <;> simp [setters, ChannelConfigCall.field]

theorem after_callsOf (config : GrpcChannelConfig) : after (callsOf config) =
    ⟨some config.endpoint, config.tlsRequired, config.mtls, config.keepAlive,
      some config.maxMessageBytes, some config.compression,
      config.requestTimeoutSecs.map fun secs => wholeSecs (.fromSecs secs)⟩ := by
  unfold after callsOf
  cases config.tlsRequired <;> cases config.mtls <;> cases config.keepAlive <;>
    cases config.requestTimeoutSecs <;> simp [set, default]

/-- Every configuration that `try_new` accepts is built, by calls in any order. -/
theorem built_callsOf {config : GrpcChannelConfig} (accepted : config.Accepted)
    (perm : (callsOf config).Perm calls) : built calls = .ok config := by
  have same : built (callsOf config) = built calls :=
    built_of_last (Setters.last_of_perm perm (callsOf_once config))
  have whole : (config.requestTimeoutSecs.map fun secs =>
      wholeSecs (.fromSecs secs)) = config.requestTimeoutSecs := by
    cases timeout : config.requestTimeoutSecs with
    | none => rfl
    | some secs =>
      have positive : secs ≠ 0 := fun zero =>
        config.requestTimeoutSecs_pos (by rw [timeout, zero])
      rw [Option.map_some, wholeSecs, Duration.asSecs_fromSecs, u64_max_one_eq positive]
  rw [← same, built, after_callsOf, whole]
  exact GrpcChannelConfig.checked.read_write accepted

end StdGrpcChannelConfigBuilder

namespace GrpcEgressBuilderImpl

theorem checkLimit_ok {option : String} {value : Option UInt64} (nonzero : value ≠ some 0) :
    checkLimit option value = .ok () := if_neg nonzero

/-- On a new builder the values of a configuration are refused for one reason only: files
for mutual TLS, and plaintext allowed. -/
theorem checkValues_withChannelConfig (config : GrpcChannelConfig) (endpoint : String) :
    ((ofEndpoint endpoint).withChannelConfig config).checkValues =
      if config.mtls.isSome && !config.tlsRequired then
        .error (.conflictingOptions "mtls" "plaintext_allowed"
          "mutual TLS needs TLS, and plaintext_allowed lets the client fall back to plaintext")
      else .ok () := by
  have limit : ∀ option, checkLimit option (some config.maxMessageBytes) = .ok () :=
    fun option => checkLimit_ok fun zero => config.maxMessageBytes_pos (Option.some.inj zero)
  have lasts : ((ofEndpoint endpoint).withChannelConfig config).requestTimeout.isZero = false := by
    unfold withChannelConfig
    cases timeout : config.requestTimeoutSecs with
    | none => rfl
    | some secs =>
      have positive : secs.toNat ≠ 0 := fun zero =>
        config.requestTimeoutSecs_pos
          (timeout.trans (congrArg some (UInt64.toNat_inj.mp zero)))
      exact beq_eq_false_iff_ne.mpr (Nat.mul_ne_zero positive (by decide))
  have presents : ((ofEndpoint endpoint).withChannelConfig config).presentsIdentity =
      config.mtls.isSome := by
    unfold presentsIdentity withChannelConfig
    cases config.mtls with
    | none => rfl
    | some mtls => rfl
  have decoding : ((ofEndpoint endpoint).withChannelConfig config).maxDecodingMessageSize =
      some config.maxMessageBytes := rfl
  have encoding : ((ofEndpoint endpoint).withChannelConfig config).maxEncodingMessageSize =
      some config.maxMessageBytes := rfl
  have allowed : ((ofEndpoint endpoint).withChannelConfig config).plaintextAllowed =
      !config.tlsRequired := rfl
  have single : ((ofEndpoint endpoint).withChannelConfig config).loadbalancer = none := rfl
  unfold checkValues
  rw [decoding, encoding, limit, limit, lasts, presents, allowed, single]
  rfl

end GrpcEgressBuilderImpl

namespace StdGrpcChannelConfigBuilder

theorem Holds.mtls_isSome {calls : List ChannelConfigCall} {config : GrpcChannelConfig}
    (holds : Holds calls config) : config.mtls.isSome = true ↔ ∃ mtls, .mtls mtls ∈ calls := by
  rw [Option.isSome_iff_exists]
  constructor
  · rintro ⟨mtls, given⟩
    exact ⟨mtls, (Setters.mem_of_last ((holds.mtls mtls).mp given)).1⟩
  · rintro ⟨mtls, member⟩
    cases given : setters.last calls .mtls with
    | none => exact absurd rfl (Setters.last_eq_none_iff.mp given _ member)
    | some c =>
      obtain ⟨lastGiven, rfl⟩ := (reads .mtls).of_field c (Setters.mem_of_last given).2
      exact ⟨lastGiven, (holds.mtls lastGiven).mpr given⟩

/-- The values of what is built pass the checks of a new egress builder unless files for
mutual TLS were given and plaintext was allowed. -/
theorem Holds.checkValues {calls : List ChannelConfigCall} {config : GrpcChannelConfig}
    (holds : Holds calls config) (endpoint : String) :
    ((GrpcEgressBuilderImpl.ofEndpoint endpoint).withChannelConfig config).checkValues = .ok () ↔
      ¬((∃ mtls, .mtls mtls ∈ calls) ∧ .allowPlaintext ∈ calls) := by
  rw [GrpcEgressBuilderImpl.checkValues_withChannelConfig, ← holds.mtls_isSome,
    ← holds.tlsRequired]
  cases config.mtls.isSome <;> cases config.tlsRequired <;> simp

end StdGrpcChannelConfigBuilder

open StdGrpcChannelConfigBuilder in
/-- However often and in whatever order the methods of a builder are called: what it builds
is decided by the last call of each and holds what those gave. It refuses only a missing or
blank endpoint and a limit of no bytes; a timeout below a second becomes one. Each
configuration that `try_new` accepts is built by the calls that set its options, in every
order, and is read back from the section it is written as; no other is. On a new egress
builder its values are refused iff it was given files for mutual TLS and allowed plaintext. -/
theorem channel_configs :
    (∀ calls calls', setters.last calls = setters.last calls' → built calls = built calls') ∧
    (∀ calls reason, built calls = .error reason ↔
      (setters.last calls .endpoint = none ∧ reason = "endpoint required") ∨
      ∃ url, setters.last calls .endpoint = some (.endpoint url) ∧
        (blank url = true ∧ reason = "endpoint must not be empty" ∨
          ¬blank url = true ∧ setters.last calls .maxMessageBytes = some (.maxMessageBytes 0) ∧
            reason = "max_message_bytes must be >= 1")) ∧
    (∀ calls config, built calls = .ok config → Holds calls config) ∧
    (∀ config calls, config.Accepted → (callsOf config).Perm calls →
      built calls = .ok config) ∧
    (∀ config : GrpcChannelConfig, config.Accepted ↔
      GrpcChannelConfig.tryFrom config.toData = .ok config) ∧
    ∀ calls config endpoint, built calls = .ok config →
      (((GrpcEgressBuilderImpl.ofEndpoint endpoint).withChannelConfig config).checkValues =
          .ok () ↔ ¬((∃ mtls, .mtls mtls ∈ calls) ∧ .allowPlaintext ∈ calls)) :=
  ⟨fun _ _ => built_of_last, fun _ _ => built_refused_iff, fun _ _ => holds_of_built,
    fun _ _ => built_callsOf, fun _ => GrpcChannelConfig.checked.made_iff,
    fun _ _ endpoint made => (holds_of_built made).checkValues endpoint⟩

/-! ## The signing of tokens -/

/-- `try_from`, and the material of a secret. -/
def BearerSecret.checked : Checked SecretMaterial BearerSecret BearerAuthError where
  read := BearerSecret.tryFrom
  write := BearerSecret.material
  Made _ := True
  write_read {material secret} made := by
    unfold BearerSecret.tryFrom at made
    split at made
    · cases material <;> cases made
    · cases made
      exact ⟨trivial, rfl⟩
  read_write {secret} _ := dif_neg secret.material_some

theorem BearerEgressConfig.tryNew_self (config : BearerEgressConfig) :
    tryNew config.secret config.issuer config.audience config.subject config.lifetimeSeconds =
      .ok config := by
  rw [tryNew, dif_neg config.issuer_some, dif_neg config.audience_some,
    dif_neg config.subject_some, dif_neg config.lifetimeSeconds_pos]

/-- An accepted configuration holds the values it was made of. -/
theorem BearerEgressConfig.tryNew_ok {secret : BearerSecret} {issuer audience subject : String}
    {secs : UInt64} {config : BearerEgressConfig}
    (made : tryNew secret issuer audience subject secs = .ok config) :
    config.secret = secret ∧ config.issuer = issuer ∧ config.audience = audience ∧
      config.subject = subject ∧ config.lifetimeSeconds = secs := by
  unfold tryNew at made
  -- Four checks, each an `if` with an error in its first branch.
  iterate 4
    split at made
    · cases made
  cases made
  exact ⟨rfl, rfl, rfl, rfl, rfl⟩

/-- Two secrets are equal to the guard iff they are equal and symmetric. -/
theorem StdBearerSecretGuard.ctEqHs256_iff {left right : BearerSecret} :
    ctEqHs256 left right = true ↔ left = right ∧ left.hs256Secret.isSome = true := by
  obtain ⟨left, left_some⟩ := left
  obtain ⟨right, right_some⟩ := right
  cases left <;> cases right <;> simp [ctEqHs256, BearerSecret.hs256Secret]

/-- A call of a method of a `BearerEgressConfigBuilder`. -/
inductive BearerConfigCall where
  | secret (secret : BearerSecret)
  | issuer (issuer : String)
  | audience (audience : String)
  | subject (subject : String)
  | lifetimeSeconds (secs : UInt64)

/-- What a configuration asks for. -/
inductive BearerConfigField where
  | secret | issuer | audience | subject | lifetimeSeconds
deriving DecidableEq

/-- All of it, in the order in which a missing value is looked for. -/
def BearerConfigField.all : List BearerConfigField :=
  [.secret, .issuer, .audience, .subject, .lifetimeSeconds]

theorem BearerConfigField.all_nodup : BearerConfigField.all.Nodup := by decide

/-- What is told of a missing value. -/
def BearerConfigField.missing : BearerConfigField → String
  | .secret => "secret is required"
  | .issuer => "issuer is required"
  | .audience => "audience is required"
  | .subject => "subject is required"
  | .lifetimeSeconds => "lifetime_seconds is required"

/-- What a call gives. -/
def BearerConfigField.Given : BearerConfigField → Type
  | .secret => BearerSecret
  | .issuer => String
  | .audience => String
  | .subject => String
  | .lifetimeSeconds => UInt64

/-- The call that gives a value. -/
def BearerConfigCall.make : (f : BearerConfigField) → f.Given → BearerConfigCall
  | .secret => .secret
  | .issuer => .issuer
  | .audience => .audience
  | .subject => .subject
  | .lifetimeSeconds => .lifetimeSeconds

/-- What a configuration holds. -/
def BearerEgressConfig.value (config : BearerEgressConfig) : (f : BearerConfigField) → f.Given
  | .secret => config.secret
  | .issuer => config.issuer
  | .audience => config.audience
  | .subject => config.subject
  | .lifetimeSeconds => config.lifetimeSeconds

/-- The value that a call sets. -/
def BearerConfigCall.field : BearerConfigCall → BearerConfigField
  | .secret _ => .secret
  | .issuer _ => .issuer
  | .audience _ => .audience
  | .subject _ => .subject
  | .lifetimeSeconds _ => .lifetimeSeconds

/-- `StdBearerEgressConfigBuilder`. -/
structure StdBearerEgressConfigBuilder where
  secret : Option BearerSecret
  issuer : Option String
  audience : Option String
  subject : Option String
  lifetimeSeconds : Option UInt64

namespace StdBearerEgressConfigBuilder

/-- `default`. -/
def default : StdBearerEgressConfigBuilder := ⟨none, none, none, none, none⟩

/-- The five methods. -/
def set (b : StdBearerEgressConfigBuilder) : BearerConfigCall → StdBearerEgressConfigBuilder
  | .secret secret => { b with secret := some secret }
  | .issuer issuer => { b with issuer := some issuer }
  | .audience audience => { b with audience := some audience }
  | .subject subject => { b with subject := some subject }
  | .lifetimeSeconds secs => { b with lifetimeSeconds := some secs }

/-- `ok_or` of a required value. -/
def required {α : Type} (field : BearerConfigField) : Option α → Except String α
  | some value => .ok value
  | none => .error field.missing

/-- `build`. -/
def build (b : StdBearerEgressConfigBuilder) : Except String BearerEgressConfig := do
  let secret ← required .secret b.secret
  let issuer ← required .issuer b.issuer
  let audience ← required .audience b.audience
  let subject ← required .subject b.subject
  let lifetimeSeconds ← required .lifetimeSeconds b.lifetimeSeconds
  (BearerEgressConfig.tryNew secret issuer audience subject lifetimeSeconds).mapError
    BearerAuthError.toText

/-- The methods set one value each. -/
def setters : Setters StdBearerEgressConfigBuilder BearerConfigCall BearerConfigField where
  apply := set
  field := BearerConfigCall.field
  overwrites b c c' same := by
    cases c <;> cases c' <;> first | rfl | cases same
  commutes b c c' other := by
    cases c <;> cases c' <;> first | rfl | exact absurd rfl other

/-- The builder after the calls. -/
def after (calls : List BearerConfigCall) : StdBearerEgressConfigBuilder := calls.foldl set default

/-- What is built after the calls. -/
def built (calls : List BearerConfigCall) : Except String BearerEgressConfig := (after calls).build

/-- A value, if it was set. -/
def get (b : StdBearerEgressConfigBuilder) : (f : BearerConfigField) → Option f.Given
  | .secret => b.secret
  | .issuer => b.issuer
  | .audience => b.audience
  | .subject => b.subject
  | .lifetimeSeconds => b.lifetimeSeconds

theorem reads (f : BearerConfigField) :
    setters.Reads (get · f) f (BearerConfigCall.make f) id where
  of_field c mine := by
    subst mine
    cases c with
    | secret secret => exact ⟨secret, rfl⟩
    | issuer issuer => exact ⟨issuer, rfl⟩
    | audience audience => exact ⟨audience, rfl⟩
    | subject subject => exact ⟨subject, rfl⟩
    | lifetimeSeconds secs => exact ⟨secs, rfl⟩
  get_make b a := by
    cases f <;> rfl
  get_other b c other := by
    cases f <;> cases c <;> first | rfl | exact absurd rfl other

theorem get_default (f : BearerConfigField) : default.get f = none := by
  cases f <;> rfl

variable {calls : List BearerConfigCall}

theorem built_of_last {calls' : List BearerConfigCall}
    (same : setters.last calls = setters.last calls') : built calls = built calls' :=
  congrArg build (Setters.foldl_eq_of_last same default)

/-- After some calls a value is what the last call of its method gave. -/
theorem get_after {f : BearerConfigField} {value : f.Given} :
    (after calls).get f = some value ↔ setters.last calls f = some (.make f value) :=
  ((reads f).get_eq_some_iff (get_default f)).trans exists_eq_right

theorem get_after_none {f : BearerConfigField} :
    (after calls).get f = none ↔ setters.last calls f = none :=
  (reads f).get_eq_none_iff (get_default f)

/-! ### What is built -/

/-- The first value that was never given. -/
def firstMissing (calls : List BearerConfigCall) : Option BearerConfigField :=
  BearerConfigField.all.find? fun f => (setters.last calls f).isNone

theorem missing_inj {f g : BearerConfigField} : f.missing = g.missing ↔ f = g := by
  cases f <;> cases g <;> simp [BearerConfigField.missing]

theorem error_missing_iff {f g : BearerConfigField} :
    (.error g.missing : Except String BearerEgressConfig) = .error f.missing ↔
      some g = some f := by
  rw [Except.error.injEq, Option.some.injEq, missing_inj]

/-- No value that is refused reads as one that is missing. -/
theorem refused_ne_missing {secret : BearerSecret} {issuer audience subject : String}
    {secs : UInt64} {e : BearerAuthError} (f : BearerConfigField)
    (refused : BearerEgressConfig.tryNew secret issuer audience subject secs = .error e) :
    e.toText ≠ f.missing := by
  have first : e.toText.toList.head? = some 'v' := by
    unfold BearerEgressConfig.tryNew at refused
    split at refused
    · cases refused
      rfl
    split at refused
    · cases refused
      rfl
    split at refused
    · cases refused
      rfl
    split at refused
    · cases refused
      rfl
    · cases refused
  intro same
  rw [same] at first
  cases f <;> exact absurd first (by decide)

/-- A builder with all values makes the checks of `try_new`. -/
theorem build_of_values {b : StdBearerEgressConfigBuilder} {secret : BearerSecret}
    {issuer audience subject : String} {secs : UInt64} (hsecret : b.secret = some secret)
    (hissuer : b.issuer = some issuer) (haudience : b.audience = some audience)
    (hsubject : b.subject = some subject) (hsecs : b.lifetimeSeconds = some secs) :
    b.build = (BearerEgressConfig.tryNew secret issuer audience subject secs).mapError
      BearerAuthError.toText := by
  unfold build
  rw [hsecret, hissuer, haudience, hsubject, hsecs]
  rfl

theorem build_missing_iff {b : StdBearerEgressConfigBuilder} {f : BearerConfigField} :
    b.build = .error f.missing ↔
      (BearerConfigField.all.find? fun f => (b.get f).isNone) = some f := by
  obtain ⟨secret, issuer, audience, subject, secs⟩ := b
  cases secret with
  | none => exact error_missing_iff
  | some secret =>
  cases issuer with
  | none => exact error_missing_iff
  | some issuer =>
  cases audience with
  | none => exact error_missing_iff
  | some audience =>
  cases subject with
  | none => exact error_missing_iff
  | some subject =>
  cases secs with
  | none => exact error_missing_iff
  | some secs =>
    rw [build_of_values rfl rfl rfl rfl rfl]
    constructor
    · intro refused
      cases made : BearerEgressConfig.tryNew secret issuer audience subject secs with
      | ok config =>
        rw [made] at refused
        cases refused
      | error e =>
        rw [made] at refused
        exact absurd (Except.error.inj refused) (refused_ne_missing f made)
    · intro absent
      cases absent

/-- The first value that was never given is the one that is told. -/
theorem built_missing_iff {f : BearerConfigField} :
    built calls = .error f.missing ↔ firstMissing calls = some f := by
  have same : (fun f => ((after calls).get f).isNone) =
      fun f => (setters.last calls f).isNone := by
    funext f
    rw [Bool.eq_iff_iff, Option.isNone_iff_eq_none, Option.isNone_iff_eq_none, get_after_none]
  unfold built firstMissing
  rw [build_missing_iff, same]

theorem built_of_values {secret : BearerSecret} {issuer audience subject : String} {secs : UInt64}
    (hsecret : setters.last calls .secret = some (.secret secret))
    (hissuer : setters.last calls .issuer = some (.issuer issuer))
    (haudience : setters.last calls .audience = some (.audience audience))
    (hsubject : setters.last calls .subject = some (.subject subject))
    (hsecs : setters.last calls .lifetimeSeconds = some (.lifetimeSeconds secs)) :
    built calls = (BearerEgressConfig.tryNew secret issuer audience subject secs).mapError
      BearerAuthError.toText :=
  build_of_values ((@get_after calls .secret secret).mpr hsecret)
    ((@get_after calls .issuer issuer).mpr hissuer)
    ((@get_after calls .audience audience).mpr haudience)
    ((@get_after calls .subject subject).mpr hsubject)
    ((@get_after calls .lifetimeSeconds secs).mpr hsecs)

theorem build_ok {b : StdBearerEgressConfigBuilder} {config : BearerEgressConfig}
    (made : b.build = .ok config) (f : BearerConfigField) :
    b.get f = some (config.value f) := by
  obtain ⟨secret, issuer, audience, subject, secs⟩ := b
  cases secret with
  | none => cases made
  | some secret =>
  cases issuer with
  | none => cases made
  | some issuer =>
  cases audience with
  | none => cases made
  | some audience =>
  cases subject with
  | none => cases made
  | some subject =>
  cases secs with
  | none => cases made
  | some secs =>
    rw [build_of_values rfl rfl rfl rfl rfl, Checked.mapError_eq_ok_iff] at made
    obtain ⟨rfl, rfl, rfl, rfl, rfl⟩ := BearerEgressConfig.tryNew_ok made
    cases f <;> rfl

/-- What is built holds what the last calls gave. -/
theorem last_of_built {config : BearerEgressConfig} (made : built calls = .ok config)
    (f : BearerConfigField) : setters.last calls f = some (.make f (config.value f)) :=
  get_after.mp (build_ok made f)

/-- The calls that set every value of a configuration. -/
def callsOf (config : BearerEgressConfig) : List BearerConfigCall :=
  BearerConfigField.all.map fun f => .make f (config.value f)

theorem map_field_callsOf (config : BearerEgressConfig) :
    (callsOf config).map setters.field = BearerConfigField.all := rfl

/-- Every configuration is built, by calls in any order. -/
theorem built_callsOf {config : BearerEgressConfig} (perm : (callsOf config).Perm calls) :
    built calls = .ok config := by
  have once : ((callsOf config).map setters.field).Nodup := by
    rw [map_field_callsOf]
    exact BearerConfigField.all_nodup
  have same : built (callsOf config) = built calls :=
    built_of_last (Setters.last_of_perm perm once)
  rw [← same, built, build_of_values rfl rfl rfl rfl rfl]
  exact Checked.mapError_eq_ok_iff.mpr config.tryNew_self

end StdBearerEgressConfigBuilder

open StdBearerEgressConfigBuilder in
/-- However often and in whatever order the methods of a builder are called: what it builds
is decided by the last call of each and holds what those gave. The first value that was
never given is told, in the order of the source and not of the calls; where all were given,
it makes the checks of `try_new` on the last ones. Each configuration is built by the calls
that set its values, in every order. A secret is made of any material but an empty one, is
symmetric or a private key, never both, and the guard finds it equal to itself alone, and
only if it is symmetric. -/
theorem bearer_configs :
    (∀ calls calls', setters.last calls = setters.last calls' → built calls = built calls') ∧
    (∀ calls f, built calls = .error (BearerConfigField.missing f) ↔
      firstMissing calls = some f) ∧
    (∀ calls secret issuer audience subject secs,
      setters.last calls .secret = some (.secret secret) →
      setters.last calls .issuer = some (.issuer issuer) →
      setters.last calls .audience = some (.audience audience) →
      setters.last calls .subject = some (.subject subject) →
      setters.last calls .lifetimeSeconds = some (.lifetimeSeconds secs) →
      built calls = (BearerEgressConfig.tryNew secret issuer audience subject secs).mapError
        BearerAuthError.toText) ∧
    (∀ calls config, built calls = .ok config →
      ∀ f, setters.last calls f = some (.make f (config.value f))) ∧
    (∀ config calls, (callsOf config).Perm calls → built calls = .ok config) ∧
    (∀ material, (∃ secret, BearerSecret.tryFrom material = .ok secret) ↔ material.bytes ≠ []) ∧
    (∀ secret : BearerSecret,
      (∃ bytes, BearerSecret.hs256 bytes = .ok secret ∧ secret.hs256Secret = some bytes ∧
        secret.rs256PrivatePem = none) ∨
      ∃ bytes, BearerSecret.rs256 bytes = .ok secret ∧ secret.rs256PrivatePem = some bytes ∧
        secret.hs256Secret = none) ∧
    ∀ left right : BearerSecret, StdBearerSecretGuard.ctEqHs256 left right = true ↔
      left = right ∧ left.hs256Secret.isSome = true := by
  refine ⟨fun _ _ => built_of_last, fun _ _ => built_missing_iff,
    fun _ _ _ _ _ _ => built_of_values, fun _ _ => last_of_built, fun _ _ => built_callsOf,
    fun material => ?_, fun secret => ?_, fun _ _ => StdBearerSecretGuard.ctEqHs256_iff⟩
  · refine BearerSecret.checked.accepted_iff.trans ?_
    constructor
    · rintro ⟨secret, -, rfl⟩
      exact secret.material_some
    · intro nonempty
      exact ⟨⟨material, nonempty⟩, trivial, rfl⟩
  · have made : BearerSecret.tryFrom secret.material = .ok secret :=
      BearerSecret.checked.read_write trivial
    obtain ⟨material, nonempty⟩ := secret
    cases material with
    | hs256 bytes => exact .inl ⟨bytes, made, rfl, rfl⟩
    | rs256 bytes => exact .inr ⟨bytes, made, rfl, rfl⟩

end GrpcEgress
