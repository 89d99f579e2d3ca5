import GrpcEgress.Breaker.OpenCircuit

/-!
# What closes a half-open circuit

Calls made one after another, each recorded before the next one begins. The
classifier has two outcomes, so a call that the peer never answered, because its
message could not be encoded or it was refused on the caller's side, counts as a
success of the peer like an answered one.

1. `record_gains_iff`: recording closes a half-open circuit, or forgets failures
   that were counted, exactly on a success when enough probes or any failure were
   counted before;
2. `closes_on_evidence_iff`: a run does so only on answers of the peer iff no
   unanswered call that counts as a success is recorded at such a moment;
3. `closed_without_an_answer`: a run in which it is.
-/

namespace GrpcEgress

open StdFailureClassifier

/-- A call that is made: its shape and path, the clock when it is admitted and
recorded, and how the wrapped client ends it if it gets there. -/
structure CallMade where
  shape : CallShape
  path : String
  clock : CallClock
  inner : Except CallError Unit

/-- The end of a call that reached the wrapped client, and the node around its
record. -/
structure RecordStep where
  before : BreakerNode
  inner : Except CallError Unit
  after : BreakerNode
deriving DecidableEq

/-- The record closes a half-open circuit, or resets a positive failure count of a
closed one. -/
def RecordStep.Gains (s : RecordStep) : Prop :=
  (s.before.state = .halfOpen ∧ s.after.state = .closed) ∨
  (s.before.state = .closed ∧ 0 < s.before.consecutiveFailures ∧
    s.after.state = .closed ∧ s.after.consecutiveFailures = 0)

instance (s : RecordStep) : Decidable s.Gains := inferInstanceAs (Decidable (_ ∨ _))

namespace GrpcBreakerClient

variable (b : GrpcBreakerClient)

/-- The records of calls made one after another. -/
def recordSteps : BreakerNode → List CallMade → List RecordStep
  | _, [] => []
  | node, c :: cs =>
    let made := b.call c.shape c.path c.clock c.inner node
    let rest := recordSteps made.node cs
    if made.reached then ⟨(b.admitCall c.path node c.clock.admitted).1, c.inner, made.node⟩ :: rest
    else rest

/-- A half-open circuit closes, and failures are forgotten, only on an answer of the
peer. -/
def ClosesOnEvidence (calls : List CallMade) : Prop :=
  ∀ s ∈ b.recordSteps .start calls, s.Gains → AnsweredByPeer s.inner

/-- A success would close the half-open circuit, or the closed one has counted a
failure. -/
def OnTheBrink (node : BreakerNode) : Prop :=
  (node.state = .halfOpen ∧
    b.config.halfOpenProbeCount.toNat ≤ node.consecutiveSuccesses + 1) ∨
  (node.state = .closed ∧ 0 < node.consecutiveFailures)

instance (node : BreakerNode) : Decidable (b.OnTheBrink node) :=
  inferInstanceAs (Decidable (_ ∨ _))

variable {b}

/-- What the state machine answers is written back. -/
theorem record_of_ok {outcome : Outcome} {node after : BreakerNode} {now : Nat}
    (recorded : b.transition.record node b.config.toBreakerConfig outcome now = .ok after) :
    b.record outcome node now = after := by
  simp only [record, recorded]

/-- What one record gains. -/
theorem record_gains_iff (documented : b.transition.Documented) {inner : Except CallError Unit}
    (node : BreakerNode) (now : Nat) :
    (RecordStep.mk node inner (b.record (classifyResult inner) node now)).Gains ↔
      classifyResult inner = .success ∧ b.OnTheBrink node := by
  unfold RecordStep.Gains OnTheBrink
  dsimp only
  cases was : node.state with
  | opened since =>
    -- A record leaves an open circuit open, so there is nothing to gain.
    constructor
    · rintro (⟨half, _⟩ | ⟨closed, _⟩)
      · cases half
      · cases closed
    · rintro ⟨_, ⟨half, _⟩ | ⟨closed, _⟩⟩
      · cases half
      · cases closed
  | closed =>
    cases outcome : classifyResult inner with
    | success =>
      -- A success on a closed circuit forgets the failures it had counted.
      obtain ⟨after, recorded, state, none⟩ := documented.record_closed_success node
        b.config.toBreakerConfig now was
      rw [record_of_ok recorded]
      constructor
      · rintro (⟨half, _⟩ | ⟨_, some, _⟩)
        · cases half
        · exact ⟨rfl, .inr ⟨rfl, some⟩⟩
      · rintro ⟨_, ⟨half, _⟩ | ⟨_, some⟩⟩
        · cases half
        · exact .inr ⟨rfl, some, state, none⟩
    | failure =>
      -- A failure counts one more or opens the circuit; either way nothing is forgotten.
      obtain ⟨after, recorded, moved⟩ := documented.record_closed_failure node
        b.config.toBreakerConfig now was
      rw [record_of_ok recorded]
      constructor
      · rintro (⟨half, _⟩ | ⟨_, _, closed, none⟩)
        · cases half
        · split at moved
          · rw [moved.2] at none
            cases none
          · rw [moved] at closed
            cases closed
      · rintro ⟨success, _⟩
        cases success
  | halfOpen =>
    cases outcome : classifyResult inner with
    | success =>
      obtain ⟨after, recorded, moved⟩ := documented.record_halfOpen_success node
        b.config.toBreakerConfig now was
      rw [record_of_ok recorded]
      constructor
      · rintro (⟨_, closed⟩ | ⟨closed, _⟩)
        · split at moved
          · rw [moved.1] at closed
            cases closed
          · next enough => exact ⟨rfl, .inl ⟨rfl, Nat.not_lt.mp enough⟩⟩
        · cases closed
      · rintro ⟨_, ⟨_, enough⟩ | ⟨closed, _⟩⟩
        · split at moved
          · next few => exact absurd few (Nat.not_lt.mpr enough)
          · exact .inl ⟨rfl, moved⟩
        · cases closed
    | failure =>
      obtain ⟨after, recorded, state⟩ := documented.record_halfOpen_failure node
        b.config.toBreakerConfig now was
      rw [record_of_ok recorded]
      constructor
      · rintro (⟨_, closed⟩ | ⟨closed, _⟩)
        · rw [state] at closed
          cases closed
        · cases closed
      · rintro ⟨success, _⟩
        cases success

/-- Every record step of a run is one `record` on the node before it. -/
theorem after_of_recordSteps (enabled : b.config.enabled = true) {calls : List CallMade}
    {node : BreakerNode} {s : RecordStep} (h : s ∈ b.recordSteps node calls) :
    ∃ now, s.after = b.record (classifyResult s.inner) s.before now := by
  induction calls generalizing node with
  | nil => cases h
  | cons c cs ih =>
    simp only [recordSteps, call_eq_guard] at h
    cases admitted : b.admitCall c.path node c.clock.admitted with
    | mk node' answer =>
      cases answer with
      | error e =>
        rw [guard_of_refused enabled admitted] at h
        exact ih h
      | ok u =>
        rw [guard_of_proceed enabled admitted, admitted] at h
        rcases List.mem_cons.mp h with rfl | later
        · exact ⟨c.clock.recorded, rfl⟩
        · exact ih later

/-- Calls made one after another close a half-open circuit and forget failures only
on answers of the peer iff no unanswered call that counts as a success is recorded
when a success would do so. -/
theorem closes_on_evidence_iff (documented : b.transition.Documented)
    (enabled : b.config.enabled = true) (calls : List CallMade) :
    b.ClosesOnEvidence calls ↔
      ∀ s ∈ b.recordSteps .start calls, ¬ (CountsUnanswered s.inner ∧ b.OnTheBrink s.before) := by
  refine forall_congr' fun s => forall_congr' fun member => ?_
  obtain ⟨before, inner, after⟩ := s
  obtain ⟨now, recorded⟩ := after_of_recordSteps enabled member
  have effect : after = b.record (classifyResult inner) before now := recorded
  rw [effect, record_gains_iff documented]
  constructor
  · rintro evidence ⟨unanswered, brink⟩
    obtain ⟨success, silent⟩ := countsUnanswered_success unanswered
    exact silent (evidence ⟨success, brink⟩)
  · rintro never ⟨success, brink⟩
    exact (classifyResult_success success).resolve_right fun unanswered =>
      never ⟨unanswered, brink⟩

end GrpcBreakerClient

/-! ## A circuit that closes without an answer -/

/-- The caller's own input is refused before anything is sent. -/
def refusedInput : Except CallError Unit :=
  .error (.transport "/test.Peer/Echo" .invalidArgument "the path is not a method path")

/-- A call fails and opens the circuit; after the cool-down the next one is refused
on the caller's side. -/
def probeNeverSent : List CallMade :=
  [⟨.raw .unary, "/test.Peer/Echo", ⟨0, 0⟩, peerDown⟩,
    ⟨.raw .unary, "/test.Peer/Echo", ⟨1000000000, 1000000000⟩, refusedInput⟩]

/-- The second call closes the circuit, and nobody answered it. -/
theorem closed_without_an_answer :
    oneFailureBreaker.recordSteps .start probeNeverSent =
      [⟨⟨.closed, 0, 0⟩, peerDown, ⟨.opened 0, 0, 0⟩⟩,
        ⟨⟨.halfOpen, 0, 0⟩, refusedInput, ⟨.closed, 0, 0⟩⟩] ∧
    ¬ oneFailureBreaker.ClosesOnEvidence probeNeverSent := by
  have steps : oneFailureBreaker.recordSteps .start probeNeverSent =
      [⟨⟨.closed, 0, 0⟩, peerDown, ⟨.opened 0, 0, 0⟩⟩,
        ⟨⟨.halfOpen, 0, 0⟩, refusedInput, ⟨.closed, 0, 0⟩⟩] := by decide
  refine ⟨steps, fun evidence => ?_⟩
  have answered := evidence ⟨⟨.halfOpen, 0, 0⟩, refusedInput, ⟨.closed, 0, 0⟩⟩
    (by rw [steps]; decide) (by decide)
  exact answered

/-- The same with a probe that the peer answers, though with a failure of its own. -/
def probeAnswered : List CallMade :=
  [⟨.raw .unary, "/test.Peer/Echo", ⟨0, 0⟩, peerDown⟩,
    ⟨.typed .unary, "/test.Peer/Echo", ⟨1000000000, 1000000000⟩,
      .error (.status "/test.Peer/Echo" .notFound "" .empty)⟩]

/-- It closes the circuit on evidence. -/
theorem probeAnswered_closes_on_evidence : oneFailureBreaker.ClosesOnEvidence probeAnswered :=
  (GrpcBreakerClient.closes_on_evidence_iff BreakerTransition.threeState_documented
    (rfl : oneFailureBreaker.config.enabled = true) probeAnswered).mpr (by decide)

end GrpcEgress
