import GrpcEgress.Builder.Build

/-!
# Options in any order

A method that sets one option looks at no other. So what is set after a list of calls is
found for each option in the calls of its own methods: the last value given, or all of them
for an option that collects values. `settled` is the builder so described, and
`foldl_apply` says that the calls lead to it.

The calls of one option keep their order in a reordering. `with_trace_context` adds an
interceptor, so it is a call of the same option as `with_interceptor`.

Result: `options_in_any_order`.
-/

namespace GrpcEgress

open Panicking

namespace BuilderOption

/-! ## What a call gives a field -/

def givesEndpoint : BuilderOption → Option String
  | .endpoint url => some url
  | _ => none

def givesEndpointExplicit : BuilderOption → Option Bool
  | .endpoint _ => some true
  | _ => none

def givesPlaintextAllowed : BuilderOption → Option Bool
  | .plaintextAllowed => some true
  | _ => none

def givesRequestTimeout : BuilderOption → Option Duration
  | .requestTimeout timeout => some timeout
  | _ => none

def givesMaxDecodingMessageSize : BuilderOption → Option (Option UInt64)
  | .maxDecodingMessageSize bytes => some (some bytes)
  | _ => none

def givesMaxEncodingMessageSize : BuilderOption → Option (Option UInt64)
  | .maxEncodingMessageSize bytes => some (some bytes)
  | _ => none

def givesSendCompression : BuilderOption → Option (Option Compression)
  | .sendCompression compression => some (some compression)
  | _ => none

def givesAcceptCompression : BuilderOption → Option Compression
  | .acceptCompression compression => some compression
  | _ => none

def givesInterceptor : BuilderOption → Option GrpcEgressInterceptor
  | .interceptor hooks => some hooks
  | .traceContext source => some (TraceContextGrpcEgressInterceptor.ofSource source)
  | _ => none

def givesTls : BuilderOption → Option (Option TlsSource)
  | .tls settings => some (some (.settings settings))
  | _ => none

def givesKeepAlive : BuilderOption → Option (Option KeepAliveConfig)
  | .keepAlive config => some (some config)
  | _ => none

def givesLoadbalancer : BuilderOption → Option (Option LoadbalancerSettings)
  | .loadbalancer settings => some (some settings)
  | _ => none

end BuilderOption

open BuilderOption GrpcEgressBuilderImpl

/-- The last of the values that calls give, or else what there was. -/
def lastGiven {α : Type} (gives : BuilderOption → Option α) (before : α)
    (calls : List BuilderOption) : α :=
  (calls.filterMap gives).getLastD before

/-- What there was, and the values that calls give. -/
def allGiven {α : Type} (gives : BuilderOption → Option α) (before : List α)
    (calls : List BuilderOption) : List α :=
  before ++ calls.filterMap gives

/-- What is set after the calls: for each option the last value given, and the accepted
compressions and the interceptors all in the order given. -/
def settled (b : GrpcEgressBuilderImpl) (calls : List BuilderOption) : GrpcEgressBuilderImpl where
  endpoint := lastGiven givesEndpoint b.endpoint calls
  endpointExplicit := lastGiven givesEndpointExplicit b.endpointExplicit calls
  plaintextAllowed := lastGiven givesPlaintextAllowed b.plaintextAllowed calls
  requestTimeout := lastGiven givesRequestTimeout b.requestTimeout calls
  maxDecodingMessageSize := lastGiven givesMaxDecodingMessageSize b.maxDecodingMessageSize calls
  maxEncodingMessageSize := lastGiven givesMaxEncodingMessageSize b.maxEncodingMessageSize calls
  sendCompression := lastGiven givesSendCompression b.sendCompression calls
  acceptCompression := allGiven givesAcceptCompression b.acceptCompression calls
  interceptors := allGiven givesInterceptor b.interceptors calls
  tls := lastGiven givesTls b.tls calls
  keepAlive := lastGiven givesKeepAlive b.keepAlive calls
  loadbalancer := lastGiven givesLoadbalancer b.loadbalancer calls

theorem lastGiven_cons {α : Type} (gives : BuilderOption → Option α) (before : α)
    (call : BuilderOption) (calls : List BuilderOption) :
    lastGiven gives before (call :: calls) =
      lastGiven gives ((gives call).getD before) calls := by
  unfold lastGiven
  cases given : gives call with
  | none => rw [List.filterMap_cons_none given]; rfl
  | some value => rw [List.filterMap_cons_some given, List.getLastD_cons]; rfl

/-- A list, with one more value if there is one. -/
def withOneMore {α : Type} (values : List α) : Option α → List α
  | none => values
  | some value => values ++ [value]

theorem allGiven_cons {α : Type} (gives : BuilderOption → Option α) (before : List α)
    (call : BuilderOption) (calls : List BuilderOption) :
    allGiven gives before (call :: calls) =
      allGiven gives (withOneMore before (gives call)) calls := by
  unfold allGiven
  cases given : gives call with
  | none => rw [List.filterMap_cons_none given]; rfl
  | some value => rw [List.filterMap_cons_some given, List.append_cons]; rfl

/-- The first of the calls gives what the method sets. -/
theorem settled_cons (b : GrpcEgressBuilderImpl) (call : BuilderOption)
    (calls : List BuilderOption) : settled b (call :: calls) = settled (call.apply b) calls := by
  simp only [settled, lastGiven_cons, allGiven_cons]
  cases call <;> rfl

/-- The calls lead to what is described. -/
theorem foldl_apply (b : GrpcEgressBuilderImpl) (calls : List BuilderOption) :
    calls.foldl BuilderOption.apply b = settled b calls := by
  induction calls generalizing b with
  | nil => simp [settled, lastGiven, allGiven]
  | cons call calls ih => rw [List.foldl_cons, ih, settled_cons]

/-! ## Reorderings -/

/-- A permutation of calls that keeps the order of the calls of each option. -/
structure Reordered (calls calls' : List BuilderOption) : Prop where
  permuted : calls.Perm calls'
  kept : ∀ option : Setting, (calls.filter fun call => call.setting = option) =
    calls'.filter fun call => call.setting = option

/-- What calls give a field is in the calls of one option. -/
theorem filterMap_filter_setting {α : Type} {gives : BuilderOption → Option α} {option : Setting}
    (only : ∀ call, call.setting ≠ option → gives call = none) (calls : List BuilderOption) :
    (calls.filter fun call => call.setting = option).filterMap gives = calls.filterMap gives := by
  induction calls with
  | nil => rfl
  | cons call calls ih =>
    by_cases mine : call.setting = option
    · rw [List.filter_cons, if_pos (decide_eq_true mine), List.filterMap_cons,
        List.filterMap_cons, ih]
    · rw [List.filter_cons, if_neg (mine ∘ of_decide_eq_true), ih,
        List.filterMap_cons_none (only call mine)]

section Reordered

variable {calls calls' : List BuilderOption}

theorem Reordered.filterMap {α : Type} {gives : BuilderOption → Option α} (option : Setting)
    (h : Reordered calls calls') (only : ∀ call, call.setting ≠ option → gives call = none) :
    calls.filterMap gives = calls'.filterMap gives := by
  rw [← filterMap_filter_setting only calls, h.kept option, filterMap_filter_setting only]

theorem Reordered.lastGiven {α : Type} {gives : BuilderOption → Option α} (option : Setting)
    (h : Reordered calls calls') (only : ∀ call, call.setting ≠ option → gives call = none)
    (before : α) : lastGiven gives before calls = lastGiven gives before calls' :=
  congrArg (List.getLastD · before) (h.filterMap option only)

theorem Reordered.allGiven {α : Type} {gives : BuilderOption → Option α} (option : Setting)
    (h : Reordered calls calls') (only : ∀ call, call.setting ≠ option → gives call = none)
    (before : List α) : allGiven gives before calls = allGiven gives before calls' :=
  congrArg (before ++ ·) (h.filterMap option only)

/-- What is set does not depend on the order in which options are taken. -/
theorem Reordered.settled (h : Reordered calls calls') (b : GrpcEgressBuilderImpl) :
    settled b calls = settled b calls' := by
  unfold GrpcEgress.settled
  simp only [GrpcEgressBuilderImpl.mk.injEq]
  refine ⟨h.lastGiven .endpoint ?_ _, h.lastGiven .endpoint ?_ _, h.lastGiven .plaintext ?_ _,
    h.lastGiven .requestTimeout ?_ _, h.lastGiven .maxDecodingMessageSize ?_ _,
    h.lastGiven .maxEncodingMessageSize ?_ _, h.lastGiven .sendCompression ?_ _,
    h.allGiven .acceptCompression ?_ _, h.allGiven .interceptors ?_ _,
    h.lastGiven .tls ?_ _, h.lastGiven .keepAlive ?_ _, h.lastGiven .loadbalancer ?_ _⟩
  all_goals
    intro call other
    cases call <;> first | rfl | exact absurd rfl other

end Reordered

/-- Calls in another order that keeps the order of the calls of each option lead to the same
builder, so it builds the same client or fails with the same error. The builder holds the
last value given to each option, and all of the compressions and interceptors in order. -/
theorem options_in_any_order (b : GrpcEgressBuilderImpl) {calls calls' : List BuilderOption}
    (reordered : Reordered calls calls') :
    calls.foldl BuilderOption.apply b = calls'.foldl BuilderOption.apply b ∧
    (∀ outside, (calls.foldl BuilderOption.apply b).build outside =
      (calls'.foldl BuilderOption.apply b).build outside) ∧
    calls.foldl BuilderOption.apply b = settled b calls := by
  have same : calls.foldl BuilderOption.apply b = calls'.foldl BuilderOption.apply b := by
    rw [foldl_apply, foldl_apply, reordered.settled]
  exact ⟨same, fun outside => congrArg (build · outside) same, foldl_apply b calls⟩

/-- Two options, each set twice, in two orders: the last limit, and both encodings. -/
theorem options_in_any_order_reversed : ∃ b : GrpcEgressBuilderImpl,
    [.acceptCompression .gzip, .maxDecodingMessageSize 1024, .acceptCompression .zstd,
      .maxDecodingMessageSize 2048].foldl BuilderOption.apply (.ofEndpoint "http://a") = b ∧
    [.maxDecodingMessageSize 1024, .acceptCompression .gzip, .maxDecodingMessageSize 2048,
      .acceptCompression .zstd].foldl BuilderOption.apply (.ofEndpoint "http://a") = b ∧
    b.maxDecodingMessageSize = some 2048 ∧ b.acceptCompression = [.gzip, .zstd] := by
  have permuted : List.Perm
      [BuilderOption.acceptCompression .gzip, .maxDecodingMessageSize 1024,
        .acceptCompression .zstd, .maxDecodingMessageSize 2048]
      [.maxDecodingMessageSize 1024, .acceptCompression .gzip, .maxDecodingMessageSize 2048,
        .acceptCompression .zstd] :=
    (List.Perm.swap _ _ _).trans (.cons _ (.cons _ (.swap _ _ _)))
  obtain ⟨same, -, set⟩ := options_in_any_order (.ofEndpoint "http://a")
    ⟨permuted, fun option => by cases option <;> rfl⟩
  exact ⟨_, same, rfl, congrArg (·.maxDecodingMessageSize) (same.symm.trans set),
    congrArg (·.acceptCompression) (same.symm.trans set)⟩

end GrpcEgress
