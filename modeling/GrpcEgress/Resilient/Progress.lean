import GrpcEgress.Resilient.Overlapping

/-!
# Every call through the stack comes to an end

No call waits for another one: the mutex of the breaker is held for single steps only, and
a loop waits for its own attempt or its own pause. `stage` counts the steps that a call
makes at the breaker; with the resumptions of its loop it grows with every step of the
call, and is bounded.

1. `advances_stage`: a step at the breaker moves one call, and moves it on;
2. `steps_step`: what a call has done, and how far it has come;
3. `calls_come_to_an_end`: a bound on the steps of each call, and a next step for every
   call that is not over.
-/

namespace GrpcEgress

open StdFailureClassifier

/-- How far a call has come at the breaker. -/
def Phase.stage : Phase → Nat
  | .entering => 0
  | .admitting _ => 1
  | .admitted _ _ _ _ => 2
  | .calling => 3
  | .answered _ => 4
  | .recording _ _ => 5
  | .recorded _ _ _ _ => 6
  | .returned _ | .refused _ => 7

/-- The call has its result. -/
def Phase.isOver : Phase → Bool
  | .returned _ | .refused _ => true
  | _ => false

/-- The wrapped client of the breaker has the call. -/
def Phase.isCalling : Phase → Bool
  | .calling => true
  | _ => false

theorem Phase.stage_le (phase : Phase) : phase.stage ≤ 7 := by
  cases phase <;> simp only [stage, Nat.reduceLeDiff, Nat.le_refl, Nat.zero_le]

namespace GrpcBreakerClient

variable {b : GrpcBreakerClient} {paths : Nat → String}

/-- The call moves on to `dest`, and no other call moves. -/
def MovesOn (pool pool' : Pool) (call : Nat) : Prop :=
  ∃ dest, (pool.phase call).stage < dest.stage ∧ pool'.phase = (pool.move call dest).phase

theorem movesOn {pool mid : Pool} {call : Nat} {now dest : Phase}
    (stands : pool.phase call = now) (same : mid.phase = pool.phase)
    (later : now.stage < dest.stage) : MovesOn pool (mid.move call dest) call := by
  refine ⟨dest, stands ▸ later, ?_⟩
  unfold Pool.move
  rw [same]

theorem advances_stage {pool pool' : Pool} {call : Nat}
    (advances : b.Advances paths pool call pool') : MovesOn pool pool' call := by
  cases advances with
  | begins _ stands | passes _ stands | looks _ stands | leaves _ stands =>
    exact movesOn stands rfl (by simp only [Phase.stage, Nat.reduceLT])
  | admitFails stands | admits stands | recordFails stands | records stands =>
    exact movesOn stands rfl (by simp only [Phase.stage, Nat.reduceLT])
  | refuses stands | proceeds stands =>
    exact movesOn stands (Pool.write_phase _ _ _) (by simp only [Phase.stage, Nat.reduceLT])
  | returns stands =>
    exact movesOn stands (Pool.writeRecord_phase _ _ _) (by simp only [Phase.stage, Nat.reduceLT])

/-- A call that is not over and not with the wrapped client has a next step. -/
theorem advance_total (pool : Pool) (call : Nat) {phase : Phase} (notOver : phase.isOver = false)
    (notCalling : phase.isCalling = false) :
    ∃ pool', b.advance paths pool call phase = some pool' := by
  cases phase with
  | calling => cases notCalling
  | returned | refused => cases notOver
  | entering =>
    by_cases enabled : b.config.enabled = true
    · exact ⟨_, if_pos enabled⟩
    · exact ⟨_, if_neg enabled⟩
  | admitting snapshot =>
    simp only [advance]
    cases b.transition.admitCall snapshot b.config.toBreakerConfig pool.clock with
    | error e => exact ⟨_, rfl⟩
    | ok answer => exact ⟨_, rfl⟩
  | admitted snapshot now node admission =>
    cases admission with
    | rejectOpen => exact ⟨_, rfl⟩
    | proceed => exact ⟨_, rfl⟩
  | answered result =>
    by_cases enabled : b.config.enabled = true
    · exact ⟨_, if_pos enabled⟩
    · exact ⟨_, if_neg enabled⟩
  | recording result snapshot =>
    simp only [advance]
    cases b.transition.record snapshot b.config.toBreakerConfig (classifyResult result)
        pool.clock with
    | error e => exact ⟨_, rfl⟩
    | ok node => exact ⟨_, rfl⟩
  | recorded result snapshot now node => exact ⟨_, rfl⟩

end GrpcBreakerClient

namespace GrpcResilientClient

variable {υ μ σ τ ρ : Type} {client : GrpcResilientClient υ} {payloads : Nat → Payload μ}
  {calls : Nat → EgressCall μ σ τ}

/-- How many of these steps are those of call `k`. -/
def stepsOf (k : Nat) (acts : List (ResilientAct υ ρ)) : Nat :=
  acts.countP fun act => act.owner == some k

/-- Each call has come as far as its own steps say. -/
def Steps (client : GrpcResilientClient υ) (payloads : Nat → Payload μ)
    (calls : Nat → EgressCall μ σ τ) (acts : List (ResilientAct υ ρ))
    (s : ResilientPool υ μ σ τ ρ) : Prop :=
  ∀ k, ∃ n, RetryFuture.Sound (client.planOf payloads calls k) n (s.future k) ∧
    stepsOf k acts ≤ (s.pool.phase k).stage + n

theorem stepsOf_concat (k : Nat) (acts : List (ResilientAct υ ρ)) (act : ResilientAct υ ρ) :
    stepsOf k (acts ++ [act]) = stepsOf k acts + if act.owner = some k then 1 else 0 := by
  unfold stepsOf
  rw [List.countP_append, List.countP_singleton]
  simp only [beq_iff_eq]

/-- A step of the stack at its breaker: of one call, or of none. -/
theorem steps_breaker {acts : List (ResilientAct υ ρ)} {s : ResilientPool υ μ σ τ ρ}
    (steps : Steps client payloads calls acts s) {act : ResilientAct υ ρ} {pool : Pool}
    (moved : (act.owner = none ∧ pool.phase = s.pool.phase) ∨
      ∃ k, act.owner = some k ∧ GrpcBreakerClient.MovesOn s.pool pool k) :
    Steps client payloads calls (acts ++ [act]) { s with pool := pool } := by
  intro k
  obtain ⟨n, sound, few⟩ := steps k
  refine ⟨n, sound, ?_⟩
  rw [stepsOf_concat]
  show _ ≤ (pool.phase k).stage + n
  rcases moved with ⟨none, same⟩ | ⟨j, own, dest, later, moved⟩
  · rw [none, same]
    exact few
  · rw [own, moved]
    by_cases here : k = j
    · subst here
      rw [if_pos rfl, Pool.move_phase_self]
      omega
    · rw [if_neg fun is => here (Option.some.inj is).symm, Pool.move_phase_other _ _ _ here]
      exact few

theorem steps_step {acts : List (ResilientAct υ ρ)} {s s' : ResilientPool υ μ σ τ ρ}
    {act : ResilientAct υ ρ} (steps : Steps client payloads calls acts s)
    (stepped : client.step payloads calls s act = some s') :
    Steps client payloads calls (acts ++ [act]) s' := by
  rcases step_cases stepped with ⟨own, pool, rfl, mine, moved, rfl⟩ |
    ⟨j, resume, f, owner, running, resumed, rfl⟩ | ⟨j, answer, pool, rfl, -, moved, rfl⟩
  · refine steps_breaker steps ?_
    cases own with
    | tick nanos =>
      cases moved
      exact .inl ⟨rfl, rfl⟩
    | drop j =>
      cases moved
      exact .inl ⟨rfl, rfl⟩
    | answer j result => exact absurd rfl (mine j result)
    | next j =>
      simp only [GrpcBreakerClient.step] at moved
      split at moved
      · cases moved
      · have advances := GrpcBreakerClient.advances_of_advance moved
        exact .inr ⟨j, rfl, GrpcBreakerClient.advances_stage advances⟩
  · intro k
    obtain ⟨n, sound, few⟩ := steps k
    rw [stepsOf_concat, owner]
    by_cases here : k = j
    · subst here
      refine ⟨n + 1, ?_, ?_⟩
      · rw [show (s.resumed k f).future k = f from if_pos rfl]
        exact RetryFuture.step_sound sound resumed
      · rw [if_pos rfl]
        exact Nat.succ_le_succ few
    · refine ⟨n, ?_, ?_⟩
      · rw [show (s.resumed j f).future k = s.future k from if_neg here]
        exact sound
      · rw [if_neg fun is => here (Option.some.inj is).symm]
        exact few
  · refine steps_breaker steps (.inr ⟨j, rfl, ?_⟩)
    obtain ⟨-, calling, rfl⟩ := GrpcBreakerClient.step_answer moved
    exact GrpcBreakerClient.movesOn calling rfl (by simp only [Phase.stage, Nat.reduceLT])

/-- Call `k` is not stuck: it makes a step at the breaker or ends its loop, or it waits for
the bare client, whose every answer it takes, or for its pause to pass. -/
def CanGoOn (client : GrpcResilientClient υ) (payloads : Nat → Payload μ)
    (calls : Nat → EgressCall μ σ τ) (s : ResilientPool υ μ σ τ ρ) (k : Nat) : Prop :=
  (∃ s', client.step payloads calls s (.breaker (.next k)) = some s') ∨
  (∃ s', client.step payloads calls s (.finish k) = some s') ∨
  (∀ result jitter, ∃ s', client.step payloads calls s (.answer k result jitter) = some s') ∨
  ∃ nanos s₁ s₂, client.step payloads calls s (.breaker (.tick nanos)) = some s₁ ∧
    client.step payloads calls s₁ (.poll k) = some s₂

/-- A loop that is done has a result. -/
theorem result_of_ended {n : Nat} {k : Nat} {f : RetryFuture υ (EgressCall μ σ τ) ρ}
    (sound : RetryFuture.Sound (client.planOf payloads calls k) n f)
    {result : Option (Except CallError ρ)} (done : f.phase = .ended result) :
    ∃ answer, result = some answer := by
  have made := sound.outcome done
  rw [← client.retry.makeOn_eq] at made
  have answers := client.retry.make_answers f.readings.toSurroundings (payloads k)
    (fun i _ => f.readings.answers i) (calls k)
  rw [show client.retry.make _ _ _ _ = _ from made] at answers
  exact Option.isSome_iff_exists.mp answers

/-- Enough time for the pause of a call to pass. -/
def nap (s : ResilientPool υ μ σ τ ρ) (k : Nat) : Nat :=
  match (s.future k).phase with
  | .sleeping _ _ sleepFor => s.paused k + sleepFor.nanos
  | _ => 0

theorem awake_after_nap (s : ResilientPool υ μ σ τ ρ) (k : Nat) :
    ResilientPool.awake { s with pool := { s.pool with clock := s.pool.clock + nap s k } } k =
      true := by
  unfold ResilientPool.awake nap
  cases (s.future k).phase with
  | sleeping attempt asked sleepFor => exact decide_eq_true (Nat.le_add_left _ _)
  | fresh | forwarding | attempting | ended => rfl

theorem canGoOn_of_inv {s : ResilientPool υ μ σ τ ρ} (inv : Inv client payloads calls s) {k : Nat}
    (alive : s.pool.dropped k = false) (notOver : (s.pool.phase k).isOver = false) :
    CanGoOn client payloads calls s k := by
  by_cases calling : s.pool.phase k = .calling
  · have running : s.running k = true := running_iff.mpr ⟨alive, calling⟩
    obtain ⟨n, sound⟩ := inv.sound k
    rcases sound.resumable with ⟨result, done⟩ | polls | takes
    · obtain ⟨answer, rfl⟩ := result_of_ended sound done
      let told := s.pool.note (.ended k (classifyResult (forget answer)))
      let ended : ResilientPool υ μ σ τ ρ :=
        { s with pool := told.move k (.answered (forget answer)) }
      refine .inr (.inl ⟨ended, ?_⟩)
      simp only [step, done, GrpcBreakerClient.step, alive, calling, if_true, Bool.false_eq_true,
        if_false, Option.map_some]
      rfl
    · -- Time passes until the pause is over, and nothing else changes.
      let later : ResilientPool υ μ σ τ ρ :=
        { s with pool := { s.pool with clock := s.pool.clock + nap s k } }
      have awake : later.awake k = true := awake_after_nap s k
      obtain ⟨f, resumed⟩ := polls (elapsedSince (later.startOf k) later.pool.clock)
      refine .inr (.inr (.inr ⟨nap s k, later, later.resumed k f, rfl, ?_⟩))
      have runs : later.running k = true := running
      simp only [step, runs, awake, Bool.and_self, if_true]
      exact Option.map_eq_some_iff.mpr ⟨f, resumed, rfl⟩
    · refine .inr (.inr (.inl fun result jitter => ?_))
      obtain ⟨f, resumed⟩ := takes result jitter (elapsedSince (s.started k) s.pool.clock)
      refine ⟨s.resumed k f, ?_⟩
      simp only [step, running, if_true]
      exact Option.map_eq_some_iff.mpr ⟨f, resumed, rfl⟩
  · have notCalling : (s.pool.phase k).isCalling = false := by
      cases stands : s.pool.phase k with
      | calling => exact absurd stands calling
      | entering | admitting | admitted | answered => rfl
      | recording | recorded | returned | refused => rfl
    obtain ⟨pool, advanced⟩ :=
      @GrpcBreakerClient.advance_total client.breaker (pathOf calls) s.pool k _ notOver notCalling
    refine .inl ⟨{ s with pool := pool }, ?_⟩
    simp only [step, GrpcBreakerClient.step, alive, Bool.false_eq_true, if_false, advanced,
      Option.map_some]

end GrpcResilientClient

open GrpcResilientClient

/-- Whatever the other calls do, and however long the bare client takes, a call of a
resilient client makes no more than eight steps of its own and two for each attempt it is
allowed; and as long as it is neither over nor dropped it is not stuck. -/
theorem calls_come_to_an_end {υ μ σ τ ρ : Type} (client : GrpcResilientClient υ)
    (payloads : Nat → Payload μ) (calls : Nat → EgressCall μ σ τ)
    (readings : Nat → Readings υ ρ) (acts : List (ResilientAct υ ρ)) (s : ResilientPool υ μ σ τ ρ)
    (ran : Runs.run (client.step payloads calls) (.start readings) acts = some s) (k : Nat) :
    stepsOf k acts ≤ 2 * client.retry.config.maxAttempts.toNat + 8 ∧
    (s.pool.dropped k = false → (s.pool.phase k).isOver = false →
      CanGoOn client payloads calls s k) := by
  have start : Steps client payloads calls [] (.start readings : ResilientPool υ μ σ τ ρ) :=
    fun k => ⟨0, .fresh _, Nat.zero_le _⟩
  have steps : Steps client payloads calls ([] ++ acts) s :=
    Runs.run_history (Steps client payloads calls) (fun _ _ _ _ steps stepped =>
      steps_step steps stepped) start ran
  refine ⟨?_, canGoOn_of_inv (run_inv ran)⟩
  obtain ⟨n, sound, few⟩ := steps k
  rw [List.nil_append] at few
  calc stepsOf k acts
      ≤ (s.pool.phase k).stage + n := few
    _ ≤ 7 + (2 * client.retry.config.maxAttempts.toNat + 1) :=
        Nat.add_le_add (Phase.stage_le _)
          (Nat.le_trans sound.few (client.retry.plan_resumptions (payloads k) (calls k)))
    _ = 2 * client.retry.config.maxAttempts.toNat + 8 := by omega

open TwoCalls in
/-- `calls_come_to_an_end` for call 1, which is in its pause while the circuit is open. -/
theorem calls_come_to_an_end_two :
    ∃ s, Runs.run (client.step payloads calls) (.start readings) (opens ++ dropped) = some s ∧
      stepsOf 1 opens = 5 ∧ stepsOf 1 (opens ++ dropped) ≤ 2 * 3 + 8 ∧
      CanGoOn client payloads calls s 1 :=
  ⟨_, rfl, rfl, (calls_come_to_an_end client payloads calls readings (opens ++ dropped) _ rfl 1).1,
    (calls_come_to_an_end client payloads calls readings (opens ++ dropped) _ rfl 1).2 rfl rfl⟩

end GrpcEgress
