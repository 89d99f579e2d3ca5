import GrpcEgress.Breaker.Evidence
import GrpcEgress.Resilient.Stack

/-!
# A peer that is down, and one that is up again

Logical calls made one after another through a resilient client whose state machine is
the documented one. The stretch of calls may begin in any state of the stack, so it may
be any stretch of a longer run.

While every call comes to a failure that the breaker counts, the circuit lets at most
`failure_threshold` of them through and one more for each cool-down that passes; what a
circuit that is open lets through is one probe, and its failure opens the circuit again
at the time it is recorded (`probes_of_opened`). Once no call does, the circuit closes.

1. `dead_peer_load`: how much a peer that is down is given to do;
2. `healthy_peer_closes`: how a circuit comes to be closed again.
-/

namespace GrpcEgress

namespace GrpcRetryClient

variable {υ μ σ τ ρ : Type} {client : GrpcRetryClient υ} {env : Surroundings υ}
  {payload : Payload μ}

theorem deadlineExhausted_uncounted (path : String) :
    ¬ CountedFailure (.error (deadlineExhausted path) : Except CallError ρ) := by
  simp [deadlineExhausted, CountedFailure]

/-- A call that the wrapped client never saw: its message could not be encoded or its time
was up. -/
theorem make_of_unsent (inner : Nat → EgressCall μ σ τ → Except CallError ρ)
    (c : EgressCall μ σ τ) (unsent : (client.make env payload inner c).sent = []) :
    ∃ e, (client.make env payload inner c).result = some (.error e) ∧
      ¬ CountedFailure (.error e : Except CallError ρ) := by
  cases c with
  | call path request =>
    simp only [make, RetryOutcome.translate_sent, List.map_eq_nil_iff, call] at unsent ⊢
    split at unsent
    · cases unsent
    · next many =>
      rw [if_neg many]
      cases encoding : payload.encode request.message with
      | error reason => exact ⟨.encode reason, rfl, id⟩
      | ok encoded =>
        rw [encoding] at unsent
        have spent := RetryInput.result_of_unsent (fun timeout => List.cons_ne_nil _ _) unsent
        exact ⟨deadlineExhausted path, by simp only [RetryOutcome.translate, spent]; rfl,
          deadlineExhausted_uncounted path⟩
  | callRaw request =>
    simp only [make, RetryOutcome.translate_sent, List.map_eq_nil_iff, callRaw] at unsent ⊢
    have spent := RetryInput.result_of_unsent (fun timeout => List.cons_ne_nil _ _) unsent
    exact ⟨deadlineExhausted request.path, by simp only [RetryOutcome.translate, spent]; rfl,
      deadlineExhausted_uncounted request.path⟩
  | callServerStream | callClientStream | callBidiStream => cases unsent
  | callRawServerStream | callRawClientStream | callRawBidiStream => cases unsent

end GrpcRetryClient

/-! ## One call, under the documented laws -/

namespace GrpcBreakerConfig

theorem one_le_failureThreshold (cfg : GrpcBreakerConfig) : 1 ≤ cfg.failureThreshold.toNat :=
  Nat.one_le_iff_ne_zero.mpr fun zero => cfg.failureThreshold_pos (UInt32.toNat_inj.mp zero)

theorem one_le_halfOpenProbeCount (cfg : GrpcBreakerConfig) : 1 ≤ cfg.halfOpenProbeCount.toNat :=
  Nat.one_le_iff_ne_zero.mpr fun zero => cfg.halfOpenProbeCount_pos (UInt32.toNat_inj.mp zero)

end GrpcBreakerConfig

namespace BreakerNode

theorem shut_of_closed {node : BreakerNode} (was : node.state = .closed) (since : Nat) :
    node.state ≠ .opened since := by
  intro opened
  cases was.symm.trans opened

theorem shut_of_halfOpen {node : BreakerNode} (was : node.state = .halfOpen) (since : Nat) :
    node.state ≠ .opened since := by
  intro opened
  cases was.symm.trans opened

end BreakerNode

namespace GrpcBreakerClient

variable {b : GrpcBreakerClient} (documented : b.transition.Documented)
include documented

/-- A breaker refuses a call while an open circuit cools down. It lets any other through,
and is half-open then if it was open. -/
theorem admitCall_cases (path : String) (node : BreakerNode) (now : Nat) :
    (∃ since node', node.state = .opened since ∧ now < since + b.coolDown ∧
      b.admitCall path node now = (node', .error (circuitOpen path)) ∧
      node'.state = .opened since) ∨
    (b.admitCall path node now = (node, .ok ()) ∧ ∀ since, node.state ≠ .opened since) ∨
    ∃ since node', node.state = .opened since ∧ since + b.coolDown ≤ now ∧
      b.admitCall path node now = (node', .ok ()) ∧ node'.state = .halfOpen ∧
      node'.consecutiveSuccesses = 0 := by
  cases was : node.state with
  | closed =>
    have asked := documented.admit_closed node b.config.toBreakerConfig now was
    exact .inr (.inl ⟨by simp only [admitCall, asked, verdict],
      was ▸ BreakerNode.shut_of_closed was⟩)
  | halfOpen =>
    have asked := documented.admit_halfOpen node b.config.toBreakerConfig now was
    exact .inr (.inl ⟨by simp only [admitCall, asked, verdict],
      was ▸ BreakerNode.shut_of_halfOpen was⟩)
  | opened since =>
    rcases Nat.lt_or_ge now (since + b.coolDown) with early | late
    · obtain ⟨node', asked, still⟩ := documented.admit_cooling node _ now since was early
      exact .inl ⟨since, node', rfl, early, by simp only [admitCall, asked, verdict], still⟩
    · obtain ⟨node', asked, half, zero⟩ := documented.admit_cooled node _ now since was late
      exact .inr (.inr ⟨since, node', rfl, late, by simp only [admitCall, asked, verdict], half,
        zero⟩)

/-- A failure of a call that went out opens the circuit, or is one more below the threshold
of a closed one. -/
theorem record_failure_cases {node : BreakerNode} (now : Nat)
    (shut : ∀ since, node.state ≠ .opened since) :
    (b.record .failure node now).state = .opened now ∨
    (node.state = .closed ∧ (b.record .failure node now).state = .closed ∧
      node.consecutiveFailures + 1 < b.config.failureThreshold.toNat ∧
      (b.record .failure node now).consecutiveFailures = node.consecutiveFailures + 1) := by
  cases was : node.state with
  | opened since => exact absurd was (shut since)
  | halfOpen =>
    obtain ⟨node', recorded, opened⟩ := documented.record_halfOpen_failure node _ now was
    exact .inl (by rw [record_of_ok recorded, opened])
  | closed =>
    obtain ⟨node', recorded, moved⟩ := documented.record_closed_failure node _ now was
    rw [record_of_ok recorded]
    split at moved
    · next below => exact .inr ⟨rfl, moved.1, below, moved.2⟩
    · exact .inl moved

/-- A success of such a call closes the circuit, or is one more below the probes that a
half-open one asks for. -/
theorem record_success_cases {node : BreakerNode} (now : Nat)
    (shut : ∀ since, node.state ≠ .opened since) :
    (b.record .success node now).state = .closed ∨
    (node.state = .halfOpen ∧ (b.record .success node now).state = .halfOpen ∧
      node.consecutiveSuccesses + 1 < b.config.halfOpenProbeCount.toNat ∧
      (b.record .success node now).consecutiveSuccesses = node.consecutiveSuccesses + 1) := by
  cases was : node.state with
  | opened since => exact absurd was (shut since)
  | closed =>
    obtain ⟨node', recorded, closed, -⟩ := documented.record_closed_success node _ now was
    exact .inl (by rw [record_of_ok recorded, closed])
  | halfOpen =>
    obtain ⟨node', recorded, moved⟩ := documented.record_halfOpen_success node _ now was
    rw [record_of_ok recorded]
    split at moved
    · next below => exact .inr ⟨rfl, moved.1, below, moved.2⟩
    · exact .inl moved

end GrpcBreakerClient

/-! ## Calls in turn -/

namespace LogicalCall

variable {υ μ σ τ ρ : Type}

/-- One after another: no call is made before `now`, nor before the one before it is
over. -/
def InTurn : Nat → List (LogicalCall υ μ σ τ ρ) → Prop
  | _, [] => True
  | now, c :: rest =>
    now ≤ c.clock.admitted ∧ c.clock.admitted ≤ c.clock.recorded ∧ InTurn c.clock.recorded rest

/-- When the last call is over. -/
def overAt : Nat → List (LogicalCall υ μ σ τ ρ) → Nat
  | now, [] => now
  | _, c :: rest => overAt c.clock.recorded rest

theorem InTurn.le_overAt {now : Nat} {calls : List (LogicalCall υ μ σ τ ρ)}
    (inTurn : InTurn now calls) : now ≤ overAt now calls := by
  induction calls generalizing now with
  | nil => exact Nat.le_refl now
  | cons c rest ih =>
    obtain ⟨made, ended, later⟩ := inTurn
    exact Nat.le_trans made (Nat.le_trans ended (ih later))

end LogicalCall

open LogicalCall

namespace GrpcResilientClient

variable {υ μ σ τ ρ : Type} {client : GrpcResilientClient υ}

variable (client) in
/-- The breaker lets the call through. -/
def admits (step : LogicalStep υ μ σ τ ρ) : Bool := (client.admission step).2.toBool

variable (client) in
/-- How many calls of a run it lets through. -/
def admitted (s : Around (List (EgressCall μ σ τ))) (calls : List (LogicalCall υ μ σ τ ρ)) : Nat :=
  (client.run s calls).countP client.admits

/-- The steps of a run are made for its calls. -/
theorem mem_of_run {calls : List (LogicalCall υ μ σ τ ρ)} {s : Around (List (EgressCall μ σ τ))}
    {step : LogicalStep υ μ σ τ ρ} (member : step ∈ client.run s calls) : step.made ∈ calls := by
  induction calls generalizing s with
  | nil => cases member
  | cons c rest ih =>
    rcases List.mem_cons.mp member with rfl | later
    · exact List.mem_cons_self
    · exact List.mem_cons_of_mem c (ih later)

section

variable {c : LogicalCall υ μ σ τ ρ} {s : Around (List (EgressCall μ σ τ))} {node : BreakerNode}

theorem admitted_of_refused {e : CallError}
    (asked : client.breaker.admitCall c.call.path s.node c.clock.admitted = (node, .error e))
    (rest : List (LogicalCall υ μ σ τ ρ)) :
    client.admitted s (c :: rest) = client.admitted (client.logical c s).1 rest := by
  simp only [admitted, run, List.countP_cons, admits, admission, asked]
  rfl

theorem admitted_of_proceed
    (asked : client.breaker.admitCall c.call.path s.node c.clock.admitted = (node, .ok ()))
    (rest : List (LogicalCall υ μ σ τ ρ)) :
    client.admitted s (c :: rest) = client.admitted (client.logical c s).1 rest + 1 := by
  simp only [admitted, run, List.countP_cons, admits, admission, asked]
  rfl

end

/-! ## A peer that is down -/

/-- How many failures in a row a circuit takes until it is open, from here. An open one
takes that of its next probe. -/
def patience (threshold : Nat) (node : BreakerNode) : Nat :=
  match node.state with
  | .closed => max 1 (threshold - node.consecutiveFailures)
  | .halfOpen | .opened _ => 1

theorem one_le_patience (threshold : Nat) (node : BreakerNode) : 1 ≤ patience threshold node := by
  unfold patience
  split
  · exact Nat.le_max_left _ _
  · exact Nat.le_refl 1
  · exact Nat.le_refl 1

theorem patience_le {threshold : Nat} (positive : 1 ≤ threshold) (node : BreakerNode) :
    patience threshold node ≤ threshold := by
  unfold patience
  split
  · exact Nat.max_le.mpr ⟨positive, Nat.sub_le _ _⟩
  · exact positive
  · exact positive

/-- A closed circuit that counts a failure has used up one of those it takes. -/
theorem patience_of_failure {threshold : Nat} {node after : BreakerNode}
    (was : node.state = .closed) (closed : after.state = .closed)
    (below : node.consecutiveFailures + 1 < threshold)
    (failures : after.consecutiveFailures = node.consecutiveFailures + 1) :
    patience threshold node = patience threshold after + 1 := by
  simp only [patience, was, closed, failures]
  omega

section

variable (documented : client.breaker.transition.Documented)
  (enabled : client.breaker.config.enabled = true)
include documented enabled

/-- A call that comes to a failure: an open circuit refuses it and stays open, or it is let
through, and opens the circuit or is one more failure of a closed one. -/
theorem failing_call {c : LogicalCall υ μ σ τ ρ} (s : Around (List (EgressCall μ σ τ)))
    (fails : CountedFailure (client.answer c)) :
    (∃ since, s.node.state = .opened since ∧ (client.logical c s).1.node.state = .opened since ∧
      ∀ rest, client.admitted s (c :: rest) = client.admitted (client.logical c s).1 rest) ∨
    ((∀ rest, client.admitted s (c :: rest) = client.admitted (client.logical c s).1 rest + 1) ∧
      ((∀ since, s.node.state = .opened since →
          since + client.breaker.coolDown ≤ c.clock.admitted) ∧
        (client.logical c s).1.node.state = .opened c.clock.recorded ∨
      s.node.state = .closed ∧ (client.logical c s).1.node.state = .closed ∧
        s.node.consecutiveFailures + 1 < client.breaker.config.failureThreshold.toNat ∧
        (client.logical c s).1.node.consecutiveFailures = s.node.consecutiveFailures + 1)) := by
  rcases client.breaker.admitCall_cases documented c.call.path s.node c.clock.admitted with
    ⟨since, node', was, _, asked, still⟩ | ⟨asked, shut⟩ | ⟨since, node', was, late, asked, half, _⟩
  · refine .inl ⟨since, was, ?_, admitted_of_refused asked⟩
    rw [logical_of_refused enabled asked]
    exact still
  · refine .inr ⟨admitted_of_proceed asked, ?_⟩
    rw [logical_of_proceed enabled asked, outcomeOf, if_pos fails]
    rcases client.breaker.record_failure_cases documented c.clock.recorded shut with
      opens | counts
    · exact .inl ⟨fun since was => absurd was (shut since), opens⟩
    · exact .inr counts
  · refine .inr ⟨admitted_of_proceed asked, .inl ⟨fun since' was' => ?_, ?_⟩⟩
    · cases was.symm.trans was'
      exact late
    · -- The probe of a half-open circuit has failed.
      rw [logical_of_proceed enabled asked, outcomeOf, if_pos fails]
      rcases client.breaker.record_failure_cases documented c.clock.recorded
        (BreakerNode.shut_of_halfOpen half) with opens | ⟨closed, -⟩
      · exact opens
      · rw [half] at closed
        cases closed

/-- A circuit that is open stays open, or is opened again. -/
theorem stays_opened {calls : List (LogicalCall υ μ σ τ ρ)} (s : Around (List (EgressCall μ σ τ)))
    (opened : ∃ since, s.node.state = .opened since)
    (dead : ∀ c ∈ calls, CountedFailure (client.answer c)) :
    ∃ since, (client.after s calls).node.state = .opened since := by
  induction calls generalizing s with
  | nil => exact opened
  | cons c rest ih =>
    obtain ⟨fails, deadLater⟩ := List.forall_mem_cons.mp dead
    refine ih (client.logical c s).1 ?_ deadLater
    rcases failing_call documented enabled s fails with
      ⟨since, -, still, -⟩ | ⟨-, ⟨-, opens⟩ | ⟨closed, -⟩⟩
    · exact ⟨since, still⟩
    · exact ⟨_, opens⟩
    · obtain ⟨since, was⟩ := opened
      rw [was] at closed
      cases closed

/-- Any circuit is open once its patience is used up. -/
theorem opened_of_dead {calls : List (LogicalCall υ μ σ τ ρ)}
    (s : Around (List (EgressCall μ σ τ)))
    (dead : ∀ c ∈ calls, CountedFailure (client.answer c))
    (enough : patience client.breaker.config.failureThreshold.toNat s.node ≤ calls.length) :
    ∃ since, (client.after s calls).node.state = .opened since := by
  induction calls generalizing s with
  | nil => exact absurd enough (Nat.not_le.mpr (one_le_patience _ _))
  | cons c rest ih =>
    obtain ⟨fails, deadLater⟩ := List.forall_mem_cons.mp dead
    rcases failing_call documented enabled s fails with
      ⟨since, -, still, -⟩ | ⟨-, ⟨-, opens⟩ | ⟨was, closed, below, failures⟩⟩
    · exact stays_opened documented enabled (client.logical c s).1 ⟨since, still⟩ deadLater
    · exact stays_opened documented enabled (client.logical c s).1 ⟨_, opens⟩ deadLater
    · refine ih (client.logical c s).1 deadLater ?_
      rw [patience_of_failure was closed below failures] at enough
      exact Nat.le_of_succ_le_succ enough

/-- An open circuit whose probes all fail lets through one call in each cool-down. -/
theorem probes_of_opened {calls : List (LogicalCall υ μ σ τ ρ)} {now since : Nat}
    {s : Around (List (EgressCall μ σ τ))} (opened : s.node.state = .opened since)
    (inTurn : InTurn now calls)
    (dead : ∀ c ∈ calls, CountedFailure (client.answer c)) :
    client.admitted s calls = 0 ∨
      since + client.admitted s calls * client.breaker.coolDown ≤ overAt now calls := by
  induction calls generalizing now since s with
  | nil => exact .inl rfl
  | cons c rest ih =>
    obtain ⟨-, ended, later⟩ := inTurn
    obtain ⟨fails, deadLater⟩ := List.forall_mem_cons.mp dead
    rcases failing_call documented enabled s fails with
      ⟨since', was, still, counted⟩ | ⟨counted, ⟨cooled, opens⟩ | ⟨closed, -⟩⟩
    · cases opened.symm.trans was
      rw [counted]
      exact ih still later deadLater
    · -- The next probe is due a cool-down after the failure of this one.
      have due : since + client.breaker.coolDown ≤ c.clock.recorded :=
        Nat.le_trans (cooled since opened) ended
      rw [counted]
      refine .inr ?_
      rcases ih opens later deadLater with zero | spaced
      · rw [zero, Nat.zero_add, Nat.one_mul]
        exact Nat.le_trans due later.le_overAt
      · refine Nat.le_trans ?_ spaced
        rw [Nat.succ_mul, ← Nat.add_assoc, Nat.add_right_comm]
        exact Nat.add_le_add_right due _
    · rw [opened] at closed
      cases closed

/-- Any circuit lets through what its patience allows and one more in each cool-down. -/
theorem admitted_of_dead {calls : List (LogicalCall υ μ σ τ ρ)} {now : Nat}
    (s : Around (List (EgressCall μ σ τ))) (inTurn : InTurn now calls)
    (dead : ∀ c ∈ calls, CountedFailure (client.answer c)) :
    client.admitted s calls * client.breaker.coolDown ≤
      patience client.breaker.config.failureThreshold.toNat s.node * client.breaker.coolDown +
        (overAt now calls - now) := by
  induction calls generalizing now s with
  | nil =>
    rw [admitted, run, List.countP_nil, Nat.zero_mul]
    exact Nat.zero_le _
  | cons c rest ih =>
    obtain ⟨made, ended, later⟩ := inTurn
    obtain ⟨fails, deadLater⟩ := List.forall_mem_cons.mp dead
    have sooner : overAt c.clock.recorded rest - c.clock.recorded ≤
        overAt now (c :: rest) - now :=
      Nat.sub_le_sub_left (Nat.le_trans made ended) _
    rcases failing_call documented enabled s fails with
      ⟨since, was, still, counted⟩ | ⟨counted, ⟨-, opens⟩ | ⟨was, closed, below, failures⟩⟩
    · have same : patience client.breaker.config.failureThreshold.toNat s.node =
          patience client.breaker.config.failureThreshold.toNat
            (client.logical c s).1.node := by
        simp only [patience, was, still]
      rw [counted, same]
      exact Nat.le_trans (ih _ later deadLater) (Nat.add_le_add_left sooner _)
    · rw [counted, Nat.succ_mul, Nat.add_comm]
      refine Nat.add_le_add ?_ ?_
      · exact Nat.le_mul_of_pos_left _ (one_le_patience _ _)
      · rcases probes_of_opened documented enabled opens later deadLater with zero | spaced
        · rw [zero, Nat.zero_mul]
          exact Nat.zero_le _
        · exact Nat.le_trans (Nat.le_sub_of_add_le' spaced) sooner
    · rw [counted, patience_of_failure was closed below failures, Nat.succ_mul, Nat.succ_mul,
        Nat.add_right_comm]
      exact Nat.add_le_add_right
        (Nat.le_trans (ih _ later deadLater) (Nat.add_le_add_left sooner _)) _

end

/-- The bare client is given no more than `max_attempts` calls for each call let through. -/
theorem after_below_le (enabled : client.breaker.config.enabled = true)
    (calls : List (LogicalCall υ μ σ τ ρ)) (s : Around (List (EgressCall μ σ τ))) :
    (client.after s calls).below.length ≤
      s.below.length + client.retry.config.maxAttempts.toNat * client.admitted s calls := by
  induction calls generalizing s with
  | nil => exact Nat.le_add_right _ _
  | cons c rest ih =>
    refine Nat.le_trans (ih (client.logical c s).1) ?_
    rcases logical_cases enabled c s with ⟨node, e, asked, made⟩ | ⟨node, asked, made⟩
    · exact Nat.le_of_eq (by rw [admitted_of_refused asked, made])
    · rw [admitted_of_proceed asked, made, List.length_append, List.length_map, Nat.mul_succ,
        Nat.add_assoc, Nat.add_comm (_ * _) _]
      exact Nat.add_le_add_left (Nat.add_le_add_right (attempted_length_le c) _) _

/-! ## A peer that is up -/

/-- How many successes in a row a circuit takes until it is closed, from here. -/
def wanted (probes : Nat) (node : BreakerNode) : Nat :=
  match node.state with
  | .closed => 0
  | .halfOpen => max 1 (probes - node.consecutiveSuccesses)
  | .opened _ => probes

theorem wanted_le {probes : Nat} (positive : 1 ≤ probes) (node : BreakerNode) :
    wanted probes node ≤ probes := by
  unfold wanted
  split
  · exact Nat.zero_le _
  · exact Nat.max_le.mpr ⟨positive, Nat.sub_le _ _⟩
  · exact Nat.le_refl _

/-- A call to a peer that answers whatever it is given comes to no failure that counts. -/
theorem answer_of_answered (standard : client.retry.classifier = stdRetryClassifier)
    {c : LogicalCall υ μ σ τ ρ} (answered : ∀ i sent, (c.bare i sent).toBool = true) :
    ¬ CountedFailure (client.answer c) := by
  cases sent : client.attempted c with
  | nil =>
    have unsent : (client.retry.make c.env c.payload c.bare c.call).sent = [] := by
      rw [← RetryOutcome.handed_sent]
      exact congrArg (List.map Prod.snd) sent
    obtain ⟨e, result, harmless⟩ := client.retry.make_of_unsent c.bare c.call unsent
    simp only [answer, result, Option.get_some]
    exact harmless
  | cons first rest =>
    obtain ⟨i, call⟩ := first
    have member : (i, call) ∈ client.attempted c := sent ▸ List.mem_cons_self
    cases came : c.bare i call with
    | error e =>
      have good := answered i call
      rw [came] at good
      cases good
    | ok response =>
      rw [answer_of_success standard member came]
      exact id

section

variable (documented : client.breaker.transition.Documented)
  (enabled : client.breaker.config.enabled = true)
include documented enabled

/-- A call that comes to no failure, made when no circuit cools down: it is let through, and
closes the circuit or is one more success of a half-open one. -/
theorem fine_call {c : LogicalCall υ μ σ τ ρ} (s : Around (List (EgressCall μ σ τ)))
    (fine : ¬ CountedFailure (client.answer c))
    (cooled : ∀ since, s.node.state = .opened since →
      since + client.breaker.coolDown ≤ c.clock.admitted) :
    (client.breaker.admitCall c.call.path s.node c.clock.admitted).2 = .ok () ∧
    (∀ since, (client.logical c s).1.node.state ≠ .opened since) ∧
    wanted client.breaker.config.halfOpenProbeCount.toNat (client.logical c s).1.node ≤
      wanted client.breaker.config.halfOpenProbeCount.toNat s.node - 1 := by
  -- From the node that the call is let through with.
  have onward : ∀ node, (∀ since, node.state ≠ .opened since) →
      client.breaker.admitCall c.call.path s.node c.clock.admitted = (node, .ok ()) →
      (∀ since, (client.logical c s).1.node.state ≠ .opened since) ∧
      wanted client.breaker.config.halfOpenProbeCount.toNat (client.logical c s).1.node ≤
        wanted client.breaker.config.halfOpenProbeCount.toNat node - 1 := by
    intro node shut asked
    rw [logical_of_proceed enabled asked, outcomeOf, if_neg fine]
    rcases client.breaker.record_success_cases documented c.clock.recorded shut with
      closes | ⟨was, half, below, successes⟩
    · refine ⟨BreakerNode.shut_of_closed closes, ?_⟩
      simp only [wanted, closes]
      exact Nat.zero_le _
    · refine ⟨BreakerNode.shut_of_halfOpen half, ?_⟩
      simp only [wanted, half, was, successes]
      omega
  rcases client.breaker.admitCall_cases documented c.call.path s.node c.clock.admitted with
    ⟨since, node, was, early, -, -⟩ | ⟨asked, shut⟩ | ⟨since, node, was, -, asked, half, zero⟩
  · exact absurd (cooled since was) (Nat.not_le.mpr early)
  · exact ⟨congrArg Prod.snd asked, onward _ shut asked⟩
  · have all : wanted client.breaker.config.halfOpenProbeCount.toNat node =
        wanted client.breaker.config.halfOpenProbeCount.toNat s.node := by
      simp only [wanted, half, was, zero]
      exact Nat.max_eq_right client.breaker.config.one_le_halfOpenProbeCount
    rw [← all]
    exact ⟨congrArg Prod.snd asked, onward _ (BreakerNode.shut_of_halfOpen half) asked⟩

theorem run_of_fine {calls : List (LogicalCall υ μ σ τ ρ)} {now : Nat}
    (s : Around (List (EgressCall μ σ τ))) (inTurn : InTurn now calls)
    (cooled : ∀ since, s.node.state = .opened since → since + client.breaker.coolDown ≤ now)
    (fine : ∀ c ∈ calls, ¬ CountedFailure (client.answer c)) :
    (∀ step ∈ client.run s calls, (client.admission step).2 = .ok ()) ∧
    (wanted client.breaker.config.halfOpenProbeCount.toNat s.node ≤ calls.length →
      (client.after s calls).node.state = .closed) := by
  induction calls generalizing now s with
  | nil =>
    refine ⟨fun step member => (nomatch member), fun enough => ?_⟩
    have zero := Nat.le_zero.mp enough
    unfold wanted at zero
    show s.node.state = .closed
    cases was : s.node.state with
    | closed => rfl
    | halfOpen =>
      rw [was] at zero
      exact absurd zero (Nat.ne_of_gt (Nat.le_max_left 1 _))
    | opened since =>
      rw [was] at zero
      exact absurd zero
        (Nat.one_le_iff_ne_zero.mp client.breaker.config.one_le_halfOpenProbeCount)
  | cons c rest ih =>
    obtain ⟨made, ended, later⟩ := inTurn
    obtain ⟨fineNow, fineLater⟩ := List.forall_mem_cons.mp fine
    obtain ⟨passed, shut, fewer⟩ := fine_call documented enabled s fineNow
      fun since was => Nat.le_trans (cooled since was) made
    obtain ⟨allPass, closes⟩ := ih (client.logical c s).1 later
      (fun since was => absurd was (shut since)) fineLater
    refine ⟨List.forall_mem_cons.mpr ⟨passed, allPass⟩, fun enough => closes ?_⟩
    exact Nat.le_trans fewer (Nat.sub_le_of_le_add enough)

end

end GrpcResilientClient

open GrpcResilientClient

namespace Outage

/-- One failure opens the circuit for a second; five attempts are allowed. -/
def client : GrpcResilientClient Unit := ⟨oneFailureBreaker, RateLimited.client.retry⟩

/-- A call to a peer that is not there. -/
def lost (admitted recorded : Nat) : LogicalCall Unit Unit Unit Unit Unit :=
  { RateLimited.call with
    clock := ⟨admitted, recorded⟩
    bare := fun _ _ => .error (.transport "/test.Peer/Echo" .unavailable "") }

/-- The same to a peer that answers. -/
def answered (admitted recorded : Nat) : LogicalCall Unit Unit Unit Unit Unit :=
  { RateLimited.call with clock := ⟨admitted, recorded⟩, bare := fun _ _ => .ok () }

/-- Two calls in each of two seconds. -/
def calls : List (LogicalCall Unit Unit Unit Unit Unit) :=
  [lost 0 1, lost 2 3, lost 1000000001 1000000002, lost 1000000003 1000000004]

/-- The circuit has been open since. -/
def shut : Around (List (EgressCall Unit Unit Unit)) := ⟨⟨.opened 1000000002, 0, 0⟩, [], []⟩

end Outage

/-- Calls made one after another, in any state of the stack, while every one of them comes
to a failure that counts. What the bare client is given is `max_attempts` calls for each
that the circuit lets through; these are `failure_threshold` and one more for each
cool-down that passes meanwhile; and `failure_threshold` calls leave the circuit open. -/
theorem dead_peer_load {υ μ σ τ ρ : Type} (client : GrpcResilientClient υ)
    (documented : client.breaker.transition.Documented)
    (enabled : client.breaker.config.enabled = true) (s : Around (List (EgressCall μ σ τ)))
    (now : Nat) (calls : List (LogicalCall υ μ σ τ ρ)) (inTurn : InTurn now calls)
    (dead : ∀ c ∈ calls, CountedFailure (client.answer c)) :
    (client.after s calls).below.length ≤
      s.below.length + client.retry.config.maxAttempts.toNat * client.admitted s calls ∧
    client.admitted s calls * client.breaker.coolDown ≤
      client.breaker.config.failureThreshold.toNat * client.breaker.coolDown +
        (overAt now calls - now) ∧
    (client.breaker.config.failureThreshold.toNat ≤ calls.length →
      ∃ since, (client.after s calls).node.state = .opened since) := by
  have fewer := patience_le client.breaker.config.one_le_failureThreshold s.node
  refine ⟨after_below_le enabled calls s, ?_, fun enough => ?_⟩
  · refine Nat.le_trans (admitted_of_dead documented enabled s inTurn dead) ?_
    exact Nat.add_le_add_right (Nat.mul_le_mul_right _ fewer) _
  · exact opened_of_dead documented enabled s dead (Nat.le_trans fewer enough)

open Outage in
/-- `dead_peer_load` for those calls: two of them are let through. -/
theorem dead_peer_load_two :
    client.admitted RateLimited.fresh calls = 2 ∧
    (client.after RateLimited.fresh calls).below.length ≤ 0 + 5 * 2 ∧
    2 * 1000000000 ≤ 1 * 1000000000 + (1000000004 - 0) := by
  have load := dead_peer_load client BreakerTransition.threeState_documented rfl RateLimited.fresh
    0 calls (by simp only [calls, InTurn]; decide) (by decide)
  have two : client.admitted RateLimited.fresh calls = 2 := by decide
  rw [two] at load
  exact ⟨two, load.1, load.2.1⟩

/-- Calls made one after another when no circuit cools down, none of which comes to a
failure that counts, as none does to a peer that answers whatever it is given. Each is let
through and ends as the retry loop has it, and the circuit is closed if it was, or once
`half_open_probe_count` of them are over. -/
theorem healthy_peer_closes {υ μ σ τ ρ : Type} (client : GrpcResilientClient υ)
    (documented : client.breaker.transition.Documented)
    (enabled : client.breaker.config.enabled = true)
    (standard : client.retry.classifier = stdRetryClassifier)
    (s : Around (List (EgressCall μ σ τ))) (now : Nat) (calls : List (LogicalCall υ μ σ τ ρ))
    (inTurn : InTurn now calls)
    (cooled : ∀ since, s.node.state = .opened since → since + client.breaker.coolDown ≤ now)
    (fine : ∀ c ∈ calls, ¬ CountedFailure (client.answer c) ∨
      ∀ i sent, (c.bare i sent).toBool = true) :
    (∀ step ∈ client.run s calls, (client.admission step).2 = .ok () ∧
      step.result = client.answer step.made ∧
      step.after.below = step.before.below ++ (client.attempted step.made).map Prod.snd) ∧
    (s.node.state = .closed ∨ client.breaker.config.halfOpenProbeCount.toNat ≤ calls.length →
      (client.after s calls).node.state = .closed) := by
  have harmless : ∀ c ∈ calls, ¬ CountedFailure (client.answer c) := fun c member =>
    (fine c member).elim id (answer_of_answered standard)
  obtain ⟨passes, closes⟩ := run_of_fine documented enabled s inTurn cooled harmless
  refine ⟨fun step member => ?_, fun enough => closes ?_⟩
  · obtain ⟨result, below, -⟩ :=
      (run_oneCall enabled standard calls s step member).admitted (passes step member)
    exact ⟨passes step member, result, below⟩
  · rcases enough with closed | probes
    · simp only [wanted, closed]
      exact Nat.zero_le _
    · exact Nat.le_trans (wanted_le client.breaker.config.one_le_halfOpenProbeCount s.node) probes

open Outage in
/-- `healthy_peer_closes` for a call that is made when the circuit has cooled down. -/
theorem healthy_peer_closes_one :
    (client.after shut [answered 3000000000 3000000001]).node.state = .closed :=
  (healthy_peer_closes client BreakerTransition.threeState_documented rfl rfl shut 3000000000
    [answered 3000000000 3000000001] (by simp only [InTurn]; decide)
    (fun since was => by cases was; decide)
    (fun c member => by rw [List.mem_singleton.mp member]; exact .inr fun _ _ => rfl)).2
    (.inr (by decide))

end GrpcEgress
