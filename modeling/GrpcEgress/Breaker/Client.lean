import GrpcEgress.Breaker.Machine

/-!
# The breaker around one call

`GrpcBreakerClient` guarding calls made one after another: `admit`, the call,
`record`. Each of the two is run as a whole here; that they are not when calls
overlap is the subject of the modules after this one. A wrapped call is given by
its result, the response forgotten, since the breaker looks at nothing else.

1. `guardRaw_eq_guard`: the four raw shapes repeat `guard` inline and do the same;
2. `classifyResult_eq_outcomeOf`: which results are recorded as failures;
3. `classifyResult_success`, `countsUnanswered_success`: which results count as a
   success.
-/

namespace GrpcEgress

namespace StdFailureClassifier

/-- `is_breaker_failure` of `classify_result`. -/
def isBreakerFailure {ρ : Type} : Except CallError ρ → Bool
  | .ok _ => false
  | .error (.transport _ code _) =>
    match code with
    | .unavailable | .unknown | .internal => true
    | _ => false
  | .error (.status _ code _ _) =>
    match code with
    | .unavailable | .internal => true
    | _ => false
  | .error (.decode _) => true
  | .error (.encode _) => false

/-- `StdFailureClassifier::classify_result`. -/
def classifyResult {ρ : Type} (result : Except CallError ρ) : Outcome :=
  if isBreakerFailure result then .failure else .success

end StdFailureClassifier

open StdFailureClassifier

/-- `BREAKER_EGRESS_LOG_PREFIX`. -/
def breakerEgressLogPrefix : String := "grpc-breaker"

/-- What a `GrpcBreakerClient` is built from besides the client it wraps. -/
structure GrpcBreakerClient where
  config : GrpcBreakerConfig
  transition : BreakerTransition

/-- The eight calls of a client. -/
inductive CallShape where
  | typed (kind : CallKind)
  | raw (kind : CallKind)
deriving DecidableEq, Repr

/-- How a guarded call ends: the node it leaves, whether it reached the wrapped
client, and its result. -/
structure Guarded (ρ : Type) where
  node : BreakerNode
  reached : Bool
  result : Except CallError ρ

/-- The two clock readings of a call that is let through. -/
structure CallClock where
  admitted : Nat
  recorded : Nat

namespace GrpcBreakerClient

/-- `refuse`. -/
def refuse (path : String) (code : StatusCode) (reason : String) : CallError :=
  .transport path code reason

/-- The refusal of an open circuit. -/
def circuitOpen (path : String) : CallError :=
  refuse path .unavailable (breakerEgressLogPrefix ++ ": circuit open, request short-circuited")

/-- The refusal of a state machine that failed. -/
def admitFailed (path : String) (e : String) : CallError :=
  refuse path .internal (breakerEgressLogPrefix ++ ": admit failed unexpectedly: " ++ e)

/-- What `admit` answers, from the admission. -/
def verdict (path : String) : Admission → Except CallError Unit
  | .rejectOpen => .error (circuitOpen path)
  | .proceed => .ok ()

/-- `admit` as a whole: the node after it and its answer. -/
def admitCall (b : GrpcBreakerClient) (path : String) (node : BreakerNode) (now : Nat) :
    BreakerNode × Except CallError Unit :=
  match b.transition.admitCall node b.config.toBreakerConfig now with
  | .error e => (node, .error (admitFailed path e))
  | .ok (admitted, admission) => (admitted, verdict path admission)

/-- `record` as a whole: a state machine that fails is logged and the node stays. -/
def record (b : GrpcBreakerClient) (outcome : Outcome) (node : BreakerNode) (now : Nat) :
    BreakerNode :=
  match b.transition.record node b.config.toBreakerConfig outcome now with
  | .ok recorded => recorded
  | .error _ => node

/-- `guard`, around a call that would end with `inner`. -/
def guard {ρ : Type} (b : GrpcBreakerClient) (path : String) (clock : CallClock)
    (inner : Except CallError ρ) (node : BreakerNode) : Guarded ρ :=
  if !b.config.enabled then ⟨node, true, inner⟩
  else
    match b.admitCall path node clock.admitted with
    | (node, .error e) => ⟨node, false, .error e⟩
    | (node, .ok ()) => ⟨b.record (classifyResult inner) node clock.recorded, true, inner⟩

/-- The body of the four raw calls: `admit` and `record` each under their own test
of `enabled`. -/
def guardRaw {ρ : Type} (b : GrpcBreakerClient) (path : String) (clock : CallClock)
    (inner : Except CallError ρ) (node : BreakerNode) : Guarded ρ :=
  match if b.config.enabled then b.admitCall path node clock.admitted else (node, .ok ()) with
  | (node, .error e) => ⟨node, false, .error e⟩
  | (node, .ok ()) =>
    ⟨if b.config.enabled then b.record (classifyResult inner) node clock.recorded else node,
      true, inner⟩

/-- One call of either surface and any kind. -/
def call {ρ : Type} (b : GrpcBreakerClient) : CallShape → String → CallClock →
    Except CallError ρ → BreakerNode → Guarded ρ
  | .typed _ => b.guard
  | .raw _ => b.guardRaw

/-- The raw calls are guarded as the typed ones are. -/
theorem guardRaw_eq_guard {ρ : Type} (b : GrpcBreakerClient) (path : String) (clock : CallClock)
    (inner : Except CallError ρ) (node : BreakerNode) :
    b.guardRaw path clock inner node = b.guard path clock inner node := by
  unfold guardRaw guard
  cases b.config.enabled with
  | false => rfl
  | true => rfl

theorem call_eq_guard {ρ : Type} (b : GrpcBreakerClient) (shape : CallShape) (path : String)
    (clock : CallClock) (inner : Except CallError ρ) (node : BreakerNode) :
    b.call shape path clock inner node = b.guard path clock inner node := by
  cases shape with
  | typed kind => rfl
  | raw kind => exact b.guardRaw_eq_guard path clock inner node

theorem guard_of_proceed {ρ : Type} {b : GrpcBreakerClient} (enabled : b.config.enabled = true)
    {path : String} {clock : CallClock} {node admitted : BreakerNode}
    (lets : b.admitCall path node clock.admitted = (admitted, .ok ()))
    (inner : Except CallError ρ) :
    b.guard path clock inner node =
      ⟨b.record (classifyResult inner) admitted clock.recorded, true, inner⟩ := by
  simp only [guard, enabled, lets, Bool.not_true, Bool.false_eq_true, if_false]

theorem guard_of_refused {ρ : Type} {b : GrpcBreakerClient} (enabled : b.config.enabled = true)
    {path : String} {clock : CallClock} {node admitted : BreakerNode} {e : CallError}
    (refused : b.admitCall path node clock.admitted = (admitted, .error e))
    (inner : Except CallError ρ) : b.guard path clock inner node = ⟨admitted, false, .error e⟩ := by
  simp only [guard, enabled, refused, Bool.not_true, Bool.false_eq_true, if_false]

end GrpcBreakerClient

/-- The ends of a call that count against the peer: it cannot be reached, it or the
transport fails in a way that is not the caller's, or its answer cannot be decoded. -/
def CountedFailure {ρ : Type} : Except CallError ρ → Prop
  | .error (.transport _ code _) => code = .unavailable ∨ code = .unknown ∨ code = .internal
  | .error (.status _ code _ _) => code = .unavailable ∨ code = .internal
  | .error (.decode _) => True
  | _ => False

instance {ρ : Type} : (result : Except CallError ρ) → Decidable (CountedFailure result)
  | .ok _ => .isFalse id
  | .error (.encode _) => .isFalse id
  | .error (.decode _) => .isTrue trivial
  | .error (.status _ _ _ _) => inferInstanceAs (Decidable (_ ∨ _))
  | .error (.transport _ _ _) => inferInstanceAs (Decidable (_ ∨ _ ∨ _))

/-- What a state machine is to be told of a call that ends so. -/
def outcomeOf {ρ : Type} (result : Except CallError ρ) : Outcome :=
  if CountedFailure result then .failure else .success

theorem isBreakerFailure_iff {ρ : Type} (result : Except CallError ρ) :
    isBreakerFailure result = true ↔ CountedFailure result := by
  match result with
  | .ok _ => simp [isBreakerFailure, CountedFailure]
  | .error (.encode _) => simp [isBreakerFailure, CountedFailure]
  | .error (.decode _) => simp [isBreakerFailure, CountedFailure]
  | .error (.status _ code _ _) => cases code <;> simp [isBreakerFailure, CountedFailure]
  | .error (.transport _ code _) => cases code <;> simp [isBreakerFailure, CountedFailure]

/-- The classifier counts these and no others. -/
theorem classifyResult_eq_outcomeOf {ρ : Type} (result : Except CallError ρ) :
    classifyResult result = outcomeOf result := by
  unfold classifyResult outcomeOf
  exact if_congr (isBreakerFailure_iff result) rfl rfl

/-- The peer answered: a response, or a status of its own. -/
def AnsweredByPeer {ρ : Type} : Except CallError ρ → Prop
  | .ok _ => True
  | .error (.status _ _ _ _) => True
  | .error _ => False

/-- A result with no answer that is classified as a success: the caller's message
could not be encoded, or the transport failed with a code that is not the peer's
fault. -/
def CountsUnanswered {ρ : Type} : Except CallError ρ → Prop
  | .error (.encode _) => True
  | .error (.transport _ code _) => code ≠ .unavailable ∧ code ≠ .unknown ∧ code ≠ .internal
  | _ => False

instance {ρ : Type} : (result : Except CallError ρ) → Decidable (CountsUnanswered result)
  | .ok _ => .isFalse id
  | .error (.status _ _ _ _) => .isFalse id
  | .error (.decode _) => .isFalse id
  | .error (.encode _) => .isTrue trivial
  | .error (.transport _ _ _) => inferInstanceAs (Decidable (_ ∧ _))

/-- A success is an answer of the peer that does not say it is unhealthy, or no
answer at all. -/
theorem classifyResult_success {ρ : Type} {result : Except CallError ρ}
    (h : classifyResult result = .success) : AnsweredByPeer result ∨ CountsUnanswered result := by
  unfold classifyResult at h
  split at h
  · cases h
  · next fine =>
    match result, fine with
    | .ok _, _ => exact .inl trivial
    | .error (.status _ _ _ _), _ => exact .inl trivial
    | .error (.encode _), _ => exact .inr trivial
    | .error (.decode _), fine => exact absurd rfl fine
    | .error (.transport _ code _), fine =>
      refine .inr ⟨?_, ?_, ?_⟩
      · rintro rfl; exact fine rfl
      · rintro rfl; exact fine rfl
      · rintro rfl; exact fine rfl

theorem countsUnanswered_success {ρ : Type} {result : Except CallError ρ}
    (h : CountsUnanswered result) :
    classifyResult result = .success ∧ ¬ AnsweredByPeer result := by
  match result, h with
  | .error (.encode _), _ => exact ⟨rfl, id⟩
  | .error (.transport _ code _), h =>
    refine ⟨?_, id⟩
    obtain ⟨h1, h2, h3⟩ := h
    cases code <;> first | rfl | exact absurd rfl h1 | exact absurd rfl h2 | exact absurd rfl h3

end GrpcEgress
