import GrpcEgress.Cancellation.Stacked
import GrpcEgress.Resilient.Deployed

/-!
# Attempts of dropped calls

An endpoint tells its pool of a call when the call returns. The future of a call that is
dropped, by a signal, a timeout above it or its owner, does not return, and nothing tells
the pool when it goes.

1. `waiting_goes_on`: an attempt of a call that is alive can be answered, and is reported then;
2. `unreported_step`: one of a call that was dropped stays as it is;
3. `attempts_of_dropped_calls`: both, for every attempt that waits for its backend.
-/

namespace GrpcEgress

namespace RetryFuture

variable {υ ε ρ : Type} {plan : RetryPlan υ ε} {f : RetryFuture υ ε ρ}

/-- A future that waits for an attempt goes on with any answer. -/
theorem step_of_pending {n : Nat} (sound : Sound plan n f) (waits : f.pending = true)
    (result : Except CallError ρ) (jitter : υ) (elapsed : Duration) :
    ∃ f', f.step plan (.answer result jitter elapsed) = some f' := by
  rcases sound.resumable with ⟨ended, done⟩ | polls | takes
  · rw [pending, done] at waits
    cases waits
  · obtain ⟨f', polled⟩ := polls elapsed
    -- A loop that waits for an answer is not resumed by a poll.
    have idle : f.pending = false := by
      simp only [step] at polled
      split at polled
      · next fresh => rw [pending, fresh]
      · next fresh => rw [pending, fresh]
      · next fresh => rw [pending, fresh]
      · next sleeping => rw [pending, sleeping]
      · cases polled
    rw [idle] at waits
    cases waits
  · exact takes result jitter elapsed

end RetryFuture

namespace GrpcResilientClient

variable {υ μ σ τ ρ : Type} {client : GrpcResilientClient υ} {payloads : Nat → Payload μ}
  {calls : Nat → EgressCall μ σ τ}

/-- A call whose loop waits for an attempt is with the retry client. -/
theorem calling_of_pending {s : ResilientPool υ μ σ τ ρ} (inv : Inv client payloads calls s)
    {k : Nat} (waits : (s.future k).pending = true) : s.pool.phase k = .calling := by
  have late : (s.pool.phase k).isEarly = false := by
    refine Bool.eq_false_iff.mpr fun early => ?_
    rw [RetryFuture.pending, (inv.waiting k early).1] at waits
    cases waits
  have notHeld : (s.pool.phase k).held = none := by
    refine Option.eq_none_iff_forall_ne_some.mpr fun result held => ?_
    obtain ⟨answer, done, -⟩ := inv.told k result held
    rw [RetryFuture.pending, done] at waits
    cases waits
  cases stands : s.pool.phase k with
  | calling => rfl
  | entering | admitting | admitted | refused =>
    rw [stands] at late
    cases late
  | answered | recording | recorded | returned =>
    rw [stands] at notHeld
    cases notHeld

/-- What was handed over stays so. -/
theorem handed_step {s s' : ResilientPool υ μ σ τ ρ} {act : ResilientAct υ ρ}
    (stepped : client.step payloads calls s act = some s') : s.handed <+: s'.handed := by
  rcases step_cases stepped with ⟨own, pool, -, -, -, rfl⟩ | ⟨k, resume, f, -, -, -, rfl⟩ |
    ⟨k, answer, pool, -, -, -, rfl⟩
  · exact List.prefix_refl _
  · exact List.prefix_append _ _
  · exact List.prefix_refl _

/-- A call that was dropped is answered nothing. -/
theorem not_answered_of_dropped {s s' : ResilientPool υ μ σ τ ρ} {k : Nat}
    {result : Except CallError ρ} {jitter : υ} (gone : s.pool.dropped k = true) :
    client.step payloads calls s (.answer k result jitter) ≠ some s' := by
  intro stepped
  have lives := (alive_of_step stepped rfl).1
  rw [gone] at lives
  cases lives

end GrpcResilientClient

/-- A step of the endpoint is about one call of it. -/
theorem Dispatch.step_other {μ σ τ ρ : Type} {transport : EndpointTransport}
    {display : CallError → String} {calls : Nat → EgressCall μ σ τ} {s s' : Dispatch μ σ τ ρ}
    {act : DispatchAct ρ} (stepped : Dispatch.step transport display calls s act = some s')
    {n : Nat} (other : n ≠ act.call) : s'.phase n = s.phase n ∧ s'.notesOf n = s.notesOf n := by
  rcases step_cases stepped with ⟨k, _, e, rfl, -, -, rfl⟩ | ⟨k, _, pick, sent, rfl, -, -, rfl⟩ |
    ⟨k, pick, result, rfl, -, rfl⟩
  · exact ⟨move_phase_other other, notesOf_move_other (List.forall_mem_singleton.mpr rfl) other⟩
  · exact ⟨move_phase_other other, notesOf_move_other (List.forall_mem_singleton.mpr rfl) other⟩
  · exact ⟨move_phase_other other, notesOf_move_other (fun _ => call_answerNotes) other⟩

namespace Deployed

variable {υ μ σ τ ρ : Type} {client : GrpcResilientClient υ} {payloads : Nat → Payload μ}
  {calls : Nat → EgressCall μ σ τ} {transport : EndpointTransport}
  {display : CallError → String}

/-- An attempt of a call that is alive can be answered with anything, and the pool is told. -/
theorem waiting_goes_on {past : List (DeployedAct υ ρ)} {s : Deployed υ μ σ τ ρ}
    (joined : Joined client payloads calls transport display past s) {n k : Nat}
    {call : EgressCall μ σ τ} {pick : Pick} (nth : s.stack.handed[n]? = some (k, call))
    (waiting : s.endpoint.phase n = .waiting pick) (lives : s.stack.pool.dropped k = false)
    (result : Except CallError ρ) (jitter : υ) :
    ∃ s', step client payloads calls transport display s (.answer n result jitter) = some s' ∧
      s'.endpoint.notesOf n =
        .sent n pick.client call ::
          (pick.backend.toList.map fun backend =>
            .reported n backend.id (backendOutcomeOf display result)) ++ [.ended n result] := by
  have stands := joined.attempts n k call nth
  rw [waiting] at stands
  obtain ⟨current, sent, selected, -, chosen⟩ := AttemptAt.of_waiting stands
  have running : s.stack.running k = true := GrpcResilientClient.running_iff.mpr
    ⟨lives, GrpcResilientClient.calling_of_pending joined.stack current.1⟩
  obtain ⟨_, sound⟩ := joined.stack.sound k
  obtain ⟨f, resumed⟩ := RetryFuture.step_of_pending sound current.1 result jitter
    (elapsedSince (s.stack.started k) s.stack.pool.clock)
  refine ⟨⟨s.stack.resumed k f, s.endpoint.move n .done
    (Dispatch.answerNotes transport display n pick result)⟩, ?_, ?_⟩
  · simp only [step, nth, Dispatch.step, waiting, Option.bind_some, GrpcResilientClient.step,
      running, if_true, resumed, Option.map_some]
  · rw [Dispatch.notesOf_move_self fun _ => Dispatch.call_answerNotes, sent,
      Dispatch.answerNotes_of_chosen chosen]
    rfl

/-- Attempt `n` is one of call `k`, which was dropped, and nothing more was noted of it. -/
structure Unreported (n k : Nat) (s t : Deployed υ μ σ τ ρ) : Prop where
  gone : t.stack.pool.dropped k = true
  attempt : ∃ call, t.stack.handed[n]? = some (k, call)
  phase : t.endpoint.phase n = s.endpoint.phase n
  notes : t.endpoint.notesOf n = s.endpoint.notesOf n

theorem unreported_of_stack {n k : Nat} {s t : Deployed υ μ σ τ ρ} (inv : Unreported n k s t)
    {stack : ResilientPool υ μ σ τ ρ} {act : ResilientAct υ ρ}
    (moved : client.step payloads calls t.stack act = some stack) {endpoint : Dispatch μ σ τ ρ}
    (phase : endpoint.phase n = t.endpoint.phase n)
    (notes : endpoint.notesOf n = t.endpoint.notesOf n) :
    Unreported n k s ⟨stack, endpoint⟩ where
  gone := GrpcResilientClient.dropped_step moved inv.gone
  attempt := by
    obtain ⟨call, nth⟩ := inv.attempt
    obtain ⟨more, handed⟩ := GrpcResilientClient.handed_step moved
    refine ⟨call, ?_⟩
    dsimp only
    rw [← handed, List.getElem?_append_left (List.getElem?_eq_some_iff.mp nth).1]
    exact nth
  phase := phase.trans inv.phase
  notes := notes.trans inv.notes

/-- A step of the whole does nothing for an attempt of a call that was dropped. -/
theorem unreported_step {n k : Nat} {s t t' : Deployed υ μ σ τ ρ} {act : DeployedAct υ ρ}
    (inv : Unreported n k s t)
    (stepped : step client payloads calls transport display t act = some t') :
    Unreported n k s t' := by
  obtain ⟨call, nth⟩ := inv.attempt
  cases act with
  | stack act =>
    cases act with
    | answer j result jitter => cases stepped
    | breaker | poll | finish =>
      obtain ⟨stack, moved, rfl⟩ := Option.map_eq_some_iff.mp stepped
      exact unreported_of_stack inv moved rfl rfl
  | dispatch m selected jitter =>
    simp only [step] at stepped
    split at stepped
    · cases stepped
    · next j call' there =>
      split at stepped
      · next running =>
        have ne : n ≠ m := by
          rintro rfl
          cases nth.symm.trans there
          have lives := (GrpcResilientClient.running_iff.mp running).1
          rw [inv.gone] at lives
          cases lives
        obtain ⟨endpoint, started, goesOn⟩ := Option.bind_eq_some_iff.mp stepped
        obtain ⟨phase, notes⟩ := Dispatch.step_other started ne
        split at goesOn
        · cases goesOn
          exact ⟨inv.gone, inv.attempt, phase.trans inv.phase, notes.trans inv.notes⟩
        · obtain ⟨stack, moved, rfl⟩ := Option.map_eq_some_iff.mp goesOn
          exact unreported_of_stack inv moved phase notes
      · cases stepped
  | answer m result jitter =>
    simp only [step] at stepped
    split at stepped
    · cases stepped
    · next j call' there =>
      obtain ⟨endpoint, returned, answered⟩ := Option.bind_eq_some_iff.mp stepped
      obtain ⟨stack, moved, rfl⟩ := Option.map_eq_some_iff.mp answered
      have ne : n ≠ m := by
        rintro rfl
        cases nth.symm.trans there
        exact GrpcResilientClient.not_answered_of_dropped inv.gone moved
      obtain ⟨phase, notes⟩ := Dispatch.step_other returned ne
      exact unreported_of_stack inv moved phase notes

end Deployed

open Deployed

/-- A resilient client of an endpoint, calls overlapping and futures dropped in any order, and
an attempt that waits for the client of its backend. It was sent, to the client of the backend
that the pool selected for it, and not reported yet. If its call is alive, it can be answered
with anything, and then the pool is told the judgement of that, of this backend; if the call
was dropped, it waits for ever, whatever happens, and the pool is told nothing. -/
theorem attempts_of_dropped_calls {υ μ σ τ ρ : Type} (client : GrpcResilientClient υ)
    (payloads : Nat → Payload μ) (roundTrips : ∀ k, (payloads k).RoundTrips)
    (calls : Nat → EgressCall μ σ τ) (readings : Nat → Readings υ ρ)
    (transport : EndpointTransport) (display : CallError → String) (acts : List (DeployedAct υ ρ))
    (s : Deployed υ μ σ τ ρ)
    (ran : Runs.run (step client payloads calls transport display) (.start readings) acts =
      some s) (n k : Nat) (call : EgressCall μ σ τ) (pick : Pick)
    (nth : s.stack.handed[n]? = some (k, call)) (waiting : s.endpoint.phase n = .waiting pick) :
    (∃ selected, selections acts n = [selected] ∧
      Chosen transport selected pick.client pick.backend) ∧
    s.endpoint.notesOf n = [.sent n pick.client call] ∧
    (s.stack.pool.dropped k = false → ∀ result jitter, ∃ s',
      step client payloads calls transport display s (.answer n result jitter) = some s' ∧
      s'.endpoint.notesOf n =
        .sent n pick.client call ::
          (pick.backend.toList.map fun backend =>
            .reported n backend.id (backendOutcomeOf display result)) ++ [.ended n result]) ∧
    (s.stack.pool.dropped k = true → ∀ later t,
      Runs.run (step client payloads calls transport display) s later = some t →
      t.endpoint.phase n = .waiting pick ∧
      t.endpoint.notesOf n = [.sent n pick.client call]) := by
  have joined : Joined client payloads calls transport display acts s :=
    joined_run roundTrips ran
  have stands := joined.attempts n k call nth
  rw [waiting] at stands
  obtain ⟨-, sent, chosen⟩ := AttemptAt.of_waiting stands
  refine ⟨chosen, sent, fun lives result jitter =>
    waiting_goes_on joined nth waiting lives result jitter, fun gone later t went => ?_⟩
  have still : Unreported n k s t := Runs.run_invariant (Unreported n k s)
    (fun _ _ _ inv stepped => unreported_step inv stepped) ⟨gone, ⟨call, nth⟩, rfl, rfl⟩ went
  exact ⟨still.phase.trans waiting, still.notes.trans sent⟩

namespace ThreeBackends

/-- Call 1 is dropped while its first attempt is with a backend. -/
def abandons : List (DeployedAct Unit (List UInt8)) :=
  acts.take 5 ++ [.stack (.breaker (.drop 1))]

/-- Call 0 sends its first attempt to the same backend. -/
def later : List (DeployedAct Unit (List UInt8)) :=
  [.stack (.breaker (.next 0)), .stack (.breaker (.next 0)), .stack (.breaker (.next 0)),
    .stack (.poll 0), .dispatch 1 (.ok ⟨"1", "https://a"⟩) (), .answer 1 (.ok [8]) ()]

end ThreeBackends

open TwoCalls ThreeBackends in
/-- `attempts_of_dropped_calls` for call 1: without the drop its attempt is reported. -/
theorem attempts_of_dropped_calls_one :
    ∃ r s t pick, Runs.run (step client payloads calls DispatchExample.client.endpoint
        fun _ => "reset") (.start readings) (acts.take 5) = some r ∧
      (∃ r', step client payloads calls DispatchExample.client.endpoint (fun _ => "reset") r
          (.answer 0 (.error reset) ()) = some r' ∧
        r'.endpoint.notesOf 0 = [.sent 0 pick.client SecondAttempt.call,
          .reported 0 "1" (.failure "reset"), .ended 0 (.error reset)]) ∧
      Runs.run (step client payloads calls DispatchExample.client.endpoint
        fun _ => "reset") (.start readings) abandons = some s ∧
      Runs.run (step client payloads calls DispatchExample.client.endpoint fun _ => "reset")
        s later = some t ∧
      s.endpoint.phase 0 = .waiting pick ∧ t.endpoint.notes.length = 4 ∧
      t.endpoint.notesOf 0 = [.sent 0 pick.client SecondAttempt.call] := by
  refine ⟨_, _, _, _, rfl, ?_, rfl, rfl, rfl, rfl, ?_⟩
  · have alive := (attempts_of_dropped_calls client payloads
      (fun _ => OneAttempt.empty_roundTrips) calls readings DispatchExample.client.endpoint
      (fun _ => "reset") (acts.take 5) _ rfl 0 1 SecondAttempt.call _ rfl rfl).2.2.1
    exact alive rfl (.error reset) ()
  · have dropped := (attempts_of_dropped_calls client payloads
      (fun _ => OneAttempt.empty_roundTrips) calls readings DispatchExample.client.endpoint
      (fun _ => "reset") abandons _ rfl 0 1 SecondAttempt.call _ rfl rfl).2.2.2
    exact (dropped rfl later _ rfl).2

end GrpcEgress
