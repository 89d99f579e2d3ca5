import GrpcEgress.Breaker.OpenCircuit
import GrpcEgress.Resilient.Stack
import GrpcEgress.Retry.Future

/-!
# Overlapping calls through the resilient stack

Any number of calls are on their way through one resilient client. Each has its place in
the `Pool` of the breaker, and a `RetryFuture` that runs while the breaker has the call
with its wrapped client. All of it shares one clock. The bare client may answer an
attempt with anything, at any time; a future may be dropped wherever it stands.

`handed` is a ghost: the calls that the bare client was given, oldest first, each with the
number of the logical call that it is an attempt of.

1. `step_breaker`: a step of the stack is at most one step of its breaker;
2. `inv_step`: what every step keeps, call by call;
3. `overlapping_calls_are_sequential`: whatever the others do, a call sends what `make`
   sends, and the breaker is told what `make` returns;
4. `attempts_of_admitted_calls`: the load on the bare client is bounded by the calls that
   were let through;
5. `dropped_call_is_silent`: a call that was dropped sends nothing more.
-/

namespace GrpcEgress

open StdFailureClassifier

/-- `Instant::elapsed` of an instant. -/
def elapsedSince (instant now : Nat) : Duration :=
  ⟨min (now - instant) Duration.maxNanos, Nat.min_le_right _ _⟩

/-- A resilient client with its calls. -/
structure ResilientPool (υ μ σ τ ρ : Type) where
  pool : Pool
  future : Nat → RetryFuture υ (EgressCall μ σ τ) ρ
  /-- When the loop of a call started. -/
  started : Nat → Nat
  /-- When a call was last resumed, so when the pause that it is in began. -/
  paused : Nat → Nat
  handed : List (Nat × EgressCall μ σ τ)

/-- What can happen next: a step of the breaker, a poll of a loop that has not started or
whose pause is over, an answer of the bare client, or the end of a loop. -/
inductive ResilientAct (υ ρ : Type) where
  | breaker (act : Act)
  | poll (call : Nat)
  | answer (call : Nat) (result : Except CallError ρ) (jitter : υ)
  | finish (call : Nat)

/-- The call whose step it is. -/
def ResilientAct.owner {υ ρ : Type} : ResilientAct υ ρ → Option Nat
  | .breaker (.next call) => some call
  | .breaker _ => none
  | .poll call | .answer call _ _ | .finish call => some call

/-- The result of a call that the breaker was given. -/
def Phase.held : Phase → Option (Except CallError Unit)
  | .answered result | .recording result _ | .recorded result _ _ _ | .returned result =>
    some result
  | _ => none

namespace ResilientPool

variable {υ μ σ τ ρ : Type}

/-- No call has begun. The readings are those still to come. -/
def start (readings : Nat → Readings υ ρ) : ResilientPool υ μ σ τ ρ :=
  ⟨.start, fun k => .start (readings k), fun _ => 0, fun _ => 0, []⟩

/-- The breaker has the call with the retry client. -/
def running (s : ResilientPool υ μ σ τ ρ) (k : Nat) : Bool :=
  !s.pool.dropped k && decide (s.pool.phase k = .calling)

/-- The call does not sleep, or its pause is over. -/
def awake (s : ResilientPool υ μ σ τ ρ) (k : Nat) : Bool :=
  match (s.future k).phase with
  | .sleeping _ _ sleepFor => decide (s.paused k + sleepFor.nanos ≤ s.pool.clock)
  | _ => true

/-- `started` of a loop: set when it is first polled. -/
def startOf (s : ResilientPool υ μ σ τ ρ) (k : Nat) : Nat :=
  match (s.future k).phase with
  | .fresh => s.pool.clock
  | _ => s.started k

/-- The loop of call `k` was resumed. -/
def resumed (s : ResilientPool υ μ σ τ ρ) (k : Nat) (f : RetryFuture υ (EgressCall μ σ τ) ρ) :
    ResilientPool υ μ σ τ ρ where
  pool := s.pool
  future j := if j = k then f else s.future j
  started j := if j = k then s.startOf k else s.started j
  paused j := if j = k then s.pool.clock else s.paused j
  handed := s.handed ++ (f.sent.drop (s.future k).sent.length).map fun call => (k, call)

/-- What call `k` was handed over as, in order. -/
def handedFor (s : ResilientPool υ μ σ τ ρ) (k : Nat) : List (EgressCall μ σ τ) :=
  (s.handed.filter fun entry => entry.1 == k).map Prod.snd

end ResilientPool

namespace GrpcResilientClient

variable {υ μ σ τ ρ : Type} (client : GrpcResilientClient υ) (payloads : Nat → Payload μ)
  (calls : Nat → EgressCall μ σ τ)

/-- The path of each call. -/
abbrev pathOf (calls : Nat → EgressCall μ σ τ) (k : Nat) : String := (calls k).path

/-- What the retry client does with call `k`. -/
abbrev planOf (k : Nat) : RetryPlan υ (EgressCall μ σ τ) :=
  client.retry.plan (payloads k) (calls k)

/-- One step of the whole. -/
def step (s : ResilientPool υ μ σ τ ρ) : ResilientAct υ ρ → Option (ResilientPool υ μ σ τ ρ)
  | .breaker act =>
    match act with
    | .answer _ _ => none
    | act => (client.breaker.step (pathOf calls) s.pool act).map fun pool => { s with pool := pool }
  | .poll k =>
    if s.running k && s.awake k then
      ((s.future k).step (client.planOf payloads calls k)
        (.poll (elapsedSince (s.startOf k) s.pool.clock))).map (s.resumed k)
    else none
  | .answer k result jitter =>
    if s.running k then
      ((s.future k).step (client.planOf payloads calls k)
        (.answer result jitter (elapsedSince (s.started k) s.pool.clock))).map (s.resumed k)
    else none
  | .finish k =>
    match (s.future k).phase with
    | .ended (some result) =>
      (client.breaker.step (pathOf calls) s.pool (.answer k (forget result))).map fun pool =>
        { s with pool := pool }
    | _ => none

end GrpcResilientClient

/-! ## What a step of the breaker is to one call -/

/-- The call that a mark is about. -/
def Mark.call : Mark → Nat
  | .began call | .reached call | .ended call _ | .opened call _ | .closed call => call

namespace Pool

/-- From one pool to the next, call `k` stays where it is or goes on, and if it gets past
its admission the log says so. -/
structure Onto (pool pool' : Pool) (k : Nat) : Prop where
  early : (pool'.phase k).isEarly = true → (pool.phase k).isEarly = true
  held : ∀ result, (pool'.phase k).held = some result → (pool.phase k).held = some result
  reached : (pool'.phase k).isEarly = false →
    (pool.phase k).isEarly = false ∨ .reached k ∈ marks pool'.log

/-- The log grows by notes about `call`, made now. -/
def Notes (pool pool' : Pool) (call : Nat) : Prop :=
  ∃ notes, pool'.log = notes ++ pool.log ∧
    ∀ note ∈ notes, note.time = pool.clock ∧ note.mark.call = call

/-- A step of the breaker that is not an answer. -/
structure Onwards (pool pool' : Pool) : Prop where
  each : ∀ k, Onto pool pool' k
  notes : ∃ notes, pool'.log = notes ++ pool.log ∧
    ∀ note ∈ notes, note.time = pool.clock ∧ pool.dropped note.mark.call = false
  clock : pool.clock ≤ pool'.clock
  dropped : ∀ k, pool.dropped k = true → pool'.dropped k = true
  gone : ∀ k, pool.dropped k = true → pool'.phase k = pool.phase k

theorem Onto.refl {pool pool' : Pool} {k : Nat} (same : pool'.phase k = pool.phase k) :
    Onto pool pool' k where
  early := by rw [same]; exact id
  held := by rw [same]; exact fun _ => id
  reached := by rw [same]; exact .inl

theorem Notes.none {pool pool' : Pool} {call : Nat} (same : pool'.log = pool.log) :
    pool.Notes pool' call := ⟨[], same, fun _ member => nomatch member⟩

theorem Notes.note {pool mid : Pool} {call : Nat} {mark : Mark} (notes : pool.Notes mid call)
    (now : mid.clock = pool.clock) (own : mark.call = call) : pool.Notes (mid.note mark) call := by
  obtain ⟨before, log, all⟩ := notes
  exact ⟨⟨mid.clock, mark⟩ :: before, congrArg (List.cons _) log,
    List.forall_mem_cons.mpr ⟨⟨now, own⟩, all⟩⟩

theorem Notes.write (pool : Pool) (call : Nat) (node : BreakerNode) :
    pool.Notes (pool.write call node) call := by
  have written : pool.Notes { pool with node := node } call := .none rfl
  unfold Pool.write
  split
  · exact written.note rfl rfl
  · exact written

theorem Notes.writeRecord (pool : Pool) (call : Nat) (node : BreakerNode) :
    pool.Notes (pool.writeRecord call node) call := by
  unfold Pool.writeRecord
  split
  · exact (Notes.write pool call node).note (write_clock _ _ _) rfl
  · exact .write pool call node

theorem writeRecord_dropped (pool : Pool) (call : Nat) (node : BreakerNode) :
    (pool.writeRecord call node).dropped = pool.dropped := by
  unfold Pool.writeRecord
  split
  · exact write_dropped _ _ _
  · exact write_dropped _ _ _

theorem held_of_early {phase : Phase} (early : phase.isEarly = true) : phase.held = none := by
  cases phase with
  | entering | admitting | admitted | refused | calling => rfl
  | answered | recording | recorded | returned => cases early

/-- How a call goes on from its phase to `dest`, in the pool `mid`: it is not let through
yet, it is now, or it was before. -/
inductive Goes (pool mid : Pool) (call : Nat) (dest : Phase) : Prop
  | waits : (pool.phase call).isEarly = true → dest.isEarly = true → Goes pool mid call dest
  | calls : dest = .calling → .reached call ∈ marks mid.log → Goes pool mid call dest
  | later : (pool.phase call).isEarly = false → dest.isEarly = false →
      dest.held = (pool.phase call).held → Goes pool mid call dest

theorem onto_of_goes {pool mid : Pool} {call : Nat} {dest : Phase}
    (goes : pool.Goes mid call dest) : Onto pool (mid.move call dest) call := by
  cases goes with
  | waits was early =>
    refine ⟨fun _ => was, fun result held => ?_, fun late => ?_⟩
    · rw [move_phase_self, held_of_early early] at held
      cases held
    · rw [move_phase_self, early] at late
      cases late
  | calls is reached =>
    subst is
    refine ⟨fun early => ?_, fun result held => ?_, fun _ => .inr reached⟩
    · rw [move_phase_self] at early
      cases early
    · rw [move_phase_self] at held
      cases held
  | later was late same =>
    refine ⟨fun early => ?_, fun result held => ?_, fun _ => .inl was⟩
    · rw [move_phase_self, late] at early
      cases early
    · rw [move_phase_self, same] at held
      exact held

/-- A call that is alive moves, on a pool with the old phases. -/
theorem onwards_move {pool mid : Pool} {call : Nat} {dest : Phase}
    (lives : pool.dropped call = false) (same : mid.phase = pool.phase)
    (notes : pool.Notes mid call) (clock : mid.clock = pool.clock)
    (alive : mid.dropped = pool.dropped) (goes : pool.Goes mid call dest) :
    Onwards pool (mid.move call dest) where
  each k := by
    by_cases here : k = call
    · rw [here]
      exact onto_of_goes goes
    · exact .refl ((move_phase_other _ _ _ here).trans (congrFun same k))
  notes := by
    obtain ⟨before, log, all⟩ := notes
    exact ⟨before, log, fun note member => ⟨(all note member).1, (all note member).2 ▸ lives⟩⟩
  clock := Nat.le_of_eq clock.symm
  dropped k := by
    show pool.dropped k = true → mid.dropped k = true
    rw [alive]
    exact id
  gone k gone := by
    have other : k ≠ call := by
      rintro rfl
      rw [lives] at gone
      cases gone
    exact (move_phase_other _ _ _ other).trans (congrFun same k)

end Pool

namespace GrpcBreakerClient

variable {b : GrpcBreakerClient} {paths : Nat → String}

/-- The next step of a call. -/
theorem advance_onwards {pool pool' : Pool} {call : Nat} (lives : pool.dropped call = false)
    (advances : b.Advances paths pool call pool') : pool.Onwards pool' := by
  have here : ∀ {phase}, pool.phase call = phase → phase.isEarly = true →
      (pool.phase call).isEarly = true := fun is early => is ▸ early
  have past : ∀ {phase}, pool.phase call = phase → phase.isEarly = false →
      (pool.phase call).isEarly = false := fun is late => is ▸ late
  cases advances with
  | begins _ stands =>
    exact Pool.onwards_move lives rfl ((Pool.Notes.none rfl).note rfl rfl) rfl rfl
      (.waits (here stands rfl) rfl)
  | passes _ stands =>
    exact Pool.onwards_move lives rfl ((Pool.Notes.none rfl).note rfl rfl) rfl rfl
      (.calls rfl List.mem_cons_self)
  | admitFails stands | admits stands =>
    exact Pool.onwards_move lives rfl (.none rfl) rfl rfl (.waits (here stands rfl) rfl)
  | refuses stands =>
    exact Pool.onwards_move lives (Pool.write_phase _ _ _) (.write _ _ _)
      (Pool.write_clock _ _ _) (Pool.write_dropped _ _ _) (.waits (here stands rfl) rfl)
  | proceeds stands =>
    exact Pool.onwards_move lives (Pool.write_phase _ _ _)
      ((Pool.Notes.write _ _ _).note (Pool.write_clock _ _ _) rfl) (Pool.write_clock _ _ _)
      (Pool.write_dropped _ _ _) (.calls rfl List.mem_cons_self)
  | looks _ stands | leaves _ stands =>
    exact Pool.onwards_move lives rfl (.none rfl) rfl rfl
      (.later (past stands rfl) rfl (by rw [stands]; rfl))
  | recordFails stands | records stands =>
    exact Pool.onwards_move lives rfl (.none rfl) rfl rfl
      (.later (past stands rfl) rfl (by rw [stands]; rfl))
  | returns stands =>
    exact Pool.onwards_move lives (Pool.writeRecord_phase _ _ _) (.writeRecord _ _ _)
      (Pool.writeRecord_clock _ _ _) (Pool.writeRecord_dropped _ _ _)
      (.later (past stands rfl) rfl (by rw [stands]; rfl))

/-- Time passes, a call makes its next step, or a future is dropped. -/
theorem step_onwards {pool pool' : Pool} {act : Act} (own : ∀ k result, act ≠ .answer k result)
    (stepped : b.step paths pool act = some pool') : pool.Onwards pool' := by
  cases act with
  | tick nanos =>
    cases stepped
    exact ⟨fun k => .refl rfl, ⟨[], rfl, fun _ member => nomatch member⟩, Nat.le_add_right _ _,
      fun _ => id, fun _ _ => rfl⟩
  | next call =>
    simp only [step] at stepped
    split at stepped
    · cases stepped
    · next lives =>
      exact advance_onwards (Bool.eq_false_iff.mpr lives) (advances_of_advance stepped)
  | answer call result => exact absurd rfl (own call result)
  | drop call =>
    cases stepped
    refine ⟨fun k => .refl rfl, ⟨[], rfl, fun _ member => nomatch member⟩, Nat.le_refl _,
      fun k gone => ?_, fun _ _ => rfl⟩
    show (if k = call then true else pool.dropped k) = true
    rw [gone]
    split <;> rfl

/-- The wrapped client answers a call. -/
theorem step_answer {pool pool' : Pool} {call : Nat} {result : Except CallError Unit}
    (stepped : b.step paths pool (.answer call result) = some pool') :
    pool.dropped call = false ∧ pool.phase call = .calling ∧
      pool' = (pool.note (.ended call (classifyResult result))).move call (.answered result) := by
  simp only [step] at stepped
  split at stepped
  · cases stepped
  · next alive =>
    split at stepped
    · next called => exact ⟨Bool.eq_false_iff.mpr alive, called, (Option.some.inj stepped).symm⟩
    · cases stepped

end GrpcBreakerClient

/-! ## What every step of the stack keeps -/

namespace RetryFuture

variable {υ ε ρ : Type} {plan : RetryPlan υ ε}

theorem sent_append {f f' : RetryFuture υ ε ρ} {more : List (RetryEvent ε)}
    (events : f'.events = f.events ++ more) : ∃ rest, f'.sent = f.sent ++ rest := by
  unfold sent RetryOutcome.sent
  rw [events, List.flatMap_append]
  exact ⟨_, rfl⟩

/-- What a future has handed over begins what is sent on readings that go on from its own. -/
theorem Sound.sent {n : Nat} {f : RetryFuture υ ε ρ} (sound : Sound plan n f)
    {r : Readings υ ρ} (known : f.Known r) : ∃ rest, (plan.outcome r).sent = f.sent ++ rest := by
  obtain ⟨more, events⟩ := sound.events known
  unfold RetryFuture.sent RetryOutcome.sent
  rw [events, List.flatMap_append]
  exact ⟨_, rfl⟩

end RetryFuture

namespace GrpcResilientClient

variable {υ μ σ τ ρ : Type} {client : GrpcResilientClient υ} {payloads : Nat → Payload μ}
  {calls : Nat → EgressCall μ σ τ}

/-- What holds of the stack and its calls after every run. -/
structure Inv (client : GrpcResilientClient υ) (payloads : Nat → Payload μ)
    (calls : Nat → EgressCall μ σ τ) (s : ResilientPool υ μ σ τ ρ) : Prop where
  sound : ∀ k, ∃ n, RetryFuture.Sound (client.planOf payloads calls k) n (s.future k)
  /-- The loop of a call does not start before the breaker lets the call through. -/
  waiting : ∀ k, (s.pool.phase k).isEarly = true →
    (s.future k).phase = .fresh ∧ (s.future k).sent = []
  /-- What the breaker is told of a call is what its loop came to. -/
  told : ∀ k result, (s.pool.phase k).held = some result →
    ∃ answer, (s.future k).phase = .ended (some answer) ∧ forget answer = result
  handed : ∀ k, s.handedFor k = (s.future k).sent
  reached : ∀ k, (s.pool.phase k).isEarly = false → .reached k ∈ marks s.pool.log

theorem inv_start (readings : Nat → Readings υ ρ) :
    Inv client payloads calls (.start readings : ResilientPool υ μ σ τ ρ) where
  sound _ := ⟨0, .fresh _⟩
  waiting _ _ := ⟨rfl, rfl⟩
  told _ _ held := nomatch held
  handed _ := rfl
  reached _ late := nomatch late

theorem handedFor_resumed (s : ResilientPool υ μ σ τ ρ) (k j : Nat)
    (f : RetryFuture υ (EgressCall μ σ τ) ρ) :
    (s.resumed k f).handedFor j =
      s.handedFor j ++ if j = k then f.sent.drop (s.future k).sent.length else [] := by
  unfold ResilientPool.handedFor ResilientPool.resumed
  rw [List.filter_append, List.map_append, List.filter_map, List.map_map]
  congr 1
  by_cases same : j = k
  · rw [if_pos same, same]
    have all : (f.sent.drop (s.future k).sent.length).filter
        ((fun entry : Nat × EgressCall μ σ τ => entry.1 == k) ∘ fun call => (k, call)) =
        f.sent.drop (s.future k).sent.length :=
      List.filter_eq_self.mpr fun call _ => beq_self_eq_true k
    rw [all]
    exact List.map_id _
  · rw [if_neg same]
    have none : (f.sent.drop (s.future k).sent.length).filter
        ((fun entry : Nat × EgressCall μ σ τ => entry.1 == j) ∘ fun call => (k, call)) = [] :=
      List.filter_eq_nil_iff.mpr fun call _ is => same (beq_iff_eq.mp is).symm
    rw [none]
    rfl

/-- A call that is running is alive, and its breaker waits for the retry client. -/
theorem running_iff {s : ResilientPool υ μ σ τ ρ} {k : Nat} :
    s.running k = true ↔ s.pool.dropped k = false ∧ s.pool.phase k = .calling := by
  unfold ResilientPool.running
  rw [Bool.and_eq_true_iff, decide_eq_true_iff, Bool.not_eq_true']

/-- The loop of a call that the breaker has with the retry client is resumed. -/
theorem inv_resumed {s : ResilientPool υ μ σ τ ρ} (inv : Inv client payloads calls s) {k : Nat}
    (running : s.running k = true) {resume : Resume υ ρ}
    {f : RetryFuture υ (EgressCall μ σ τ) ρ}
    (stepped : (s.future k).step (client.planOf payloads calls k) resume = some f) :
    Inv client payloads calls (s.resumed k f) := by
  have calling : s.pool.phase k = .calling := (running_iff.mp running).2
  have other : ∀ {j}, j ≠ k → (s.resumed k f).future j = s.future j := fun ne => if_neg ne
  have own : (s.resumed k f).future k = f := if_pos rfl
  constructor
  · intro j
    by_cases same : j = k
    · rw [same, own]
      obtain ⟨n, sound⟩ := inv.sound k
      exact ⟨n + 1, RetryFuture.step_sound sound stepped⟩
    · rw [other same]
      exact inv.sound j
  · intro j early
    have ne : j ≠ k := by
      rintro rfl
      rw [show (s.resumed j f).pool.phase j = .calling from calling] at early
      cases early
    rw [other ne]
    exact inv.waiting j early
  · intro j result held
    have ne : j ≠ k := by
      rintro rfl
      rw [show (s.resumed j f).pool.phase j = .calling from calling] at held
      cases held
    rw [other ne]
    exact inv.told j result held
  · intro j
    rw [handedFor_resumed, inv.handed]
    by_cases same : j = k
    · obtain ⟨more, events⟩ := RetryFuture.step_events stepped
      obtain ⟨rest, sent⟩ := RetryFuture.sent_append events
      rw [if_pos same, same, own, sent, List.drop_left]
    · rw [if_neg same, other same, List.append_nil]
  · exact inv.reached

/-- A step of the breaker leaves the loops alone. -/
theorem inv_breaker {s : ResilientPool υ μ σ τ ρ} (inv : Inv client payloads calls s)
    {pool : Pool} (onwards : s.pool.Onwards pool) :
    Inv client payloads calls { s with pool := pool } where
  sound := inv.sound
  waiting k early := inv.waiting k ((onwards.each k).early early)
  told k result held := inv.told k result ((onwards.each k).held result held)
  handed := inv.handed
  reached k late := by
    rcases (onwards.each k).reached late with was | now
    · obtain ⟨notes, log, -⟩ := onwards.notes
      show _ ∈ marks pool.log
      rw [log, GrpcBreakerClient.marks_append]
      exact List.mem_append_right _ (inv.reached k was)
    · exact now

/-- The loop of a call is over, and the breaker is given its result. -/
theorem inv_finish {s : ResilientPool υ μ σ τ ρ} (inv : Inv client payloads calls s) {k : Nat}
    {answer : Except CallError ρ} (done : (s.future k).phase = .ended (some answer))
    {paths : Nat → String} {pool : Pool}
    (stepped : client.breaker.step paths s.pool (.answer k (forget answer)) = some pool) :
    Inv client payloads calls { s with pool := pool } := by
  obtain ⟨-, calling, rfl⟩ := GrpcBreakerClient.step_answer stepped
  have moved : ∀ j, j = k ∨ ((s.pool.note (.ended k (classifyResult (forget answer)))).move k
      (.answered (forget answer))).phase j = s.pool.phase j := by
    intro j
    by_cases same : j = k
    · exact .inl same
    · exact .inr (Pool.move_phase_other _ _ _ same)
  have kept : ∀ mark ∈ marks s.pool.log, mark ∈ marks ((s.pool.note
      (.ended k (classifyResult (forget answer)))).move k (.answered (forget answer))).log :=
    fun mark member => List.mem_cons_of_mem _ member
  refine ⟨inv.sound, fun j early => ?_, fun j result held => ?_, inv.handed, fun j late => ?_⟩
  · rcases moved j with rfl | same
    · dsimp only at early
      rw [Pool.move_phase_self] at early
      cases early
    · dsimp only at early
      rw [same] at early
      exact inv.waiting j early
  · dsimp only at held
    rcases moved j with rfl | same
    · rw [Pool.move_phase_self] at held
      cases held
      exact ⟨answer, done, rfl⟩
    · rw [same] at held
      exact inv.told j result held
  · rcases moved j with rfl | same
    · exact kept _ (inv.reached j (by rw [calling]; rfl))
    · dsimp only at late
      rw [same] at late
      exact kept _ (inv.reached j late)

/-- All that a step of the stack can do. -/
theorem step_cases {s s' : ResilientPool υ μ σ τ ρ} {act : ResilientAct υ ρ}
    (stepped : client.step payloads calls s act = some s') :
    (∃ own pool, act = .breaker own ∧ (∀ k result, own ≠ .answer k result) ∧
      client.breaker.step (pathOf calls) s.pool own = some pool ∧ s' = { s with pool := pool }) ∨
    (∃ k resume f, act.owner = some k ∧ s.running k = true ∧
      (s.future k).step (client.planOf payloads calls k) resume = some f ∧ s' = s.resumed k f) ∨
    (∃ k answer pool, act = .finish k ∧ (s.future k).phase = .ended (some answer) ∧
      client.breaker.step (pathOf calls) s.pool (.answer k (forget answer)) = some pool ∧
      s' = { s with pool := pool }) := by
  cases act with
  | breaker own =>
    cases own with
    | answer k result => cases stepped
    | tick nanos =>
      simp only [step] at stepped
      obtain ⟨pool, moved, rfl⟩ := Option.map_eq_some_iff.mp stepped
      exact .inl ⟨_, pool, rfl, fun _ _ => nofun, moved, rfl⟩
    | next k =>
      simp only [step] at stepped
      obtain ⟨pool, moved, rfl⟩ := Option.map_eq_some_iff.mp stepped
      exact .inl ⟨_, pool, rfl, fun _ _ => nofun, moved, rfl⟩
    | drop k =>
      simp only [step] at stepped
      obtain ⟨pool, moved, rfl⟩ := Option.map_eq_some_iff.mp stepped
      exact .inl ⟨_, pool, rfl, fun _ _ => nofun, moved, rfl⟩
  | poll k =>
    simp only [step] at stepped
    split at stepped
    · next may =>
      obtain ⟨f, resumed, rfl⟩ := Option.map_eq_some_iff.mp stepped
      exact .inr (.inl ⟨k, _, f, rfl, (Bool.and_eq_true_iff.mp may).1, resumed, rfl⟩)
    · cases stepped
  | answer k result jitter =>
    simp only [step] at stepped
    split at stepped
    · next running =>
      obtain ⟨f, resumed, rfl⟩ := Option.map_eq_some_iff.mp stepped
      exact .inr (.inl ⟨k, _, f, rfl, running, resumed, rfl⟩)
    · cases stepped
  | finish k =>
    simp only [step] at stepped
    split at stepped
    · next answer done =>
      obtain ⟨pool, moved, rfl⟩ := Option.map_eq_some_iff.mp stepped
      exact .inr (.inr ⟨k, answer, pool, rfl, done, moved, rfl⟩)
    · cases stepped

/-- What one step keeps. -/
theorem inv_step {s s' : ResilientPool υ μ σ τ ρ} {act : ResilientAct υ ρ}
    (inv : Inv client payloads calls s)
    (stepped : client.step payloads calls s act = some s') : Inv client payloads calls s' := by
  rcases step_cases stepped with ⟨own, pool, -, mine, moved, rfl⟩ |
    ⟨k, resume, f, -, running, resumed, rfl⟩ | ⟨k, answer, pool, -, done, moved, rfl⟩
  · exact inv_breaker inv (GrpcBreakerClient.step_onwards mine moved)
  · exact inv_resumed inv running resumed
  · exact inv_finish inv done moved

theorem run_inv {readings : Nat → Readings υ ρ} {acts : List (ResilientAct υ ρ)}
    {s : ResilientPool υ μ σ τ ρ}
    (ran : Runs.run (client.step payloads calls) (.start readings) acts = some s) :
    Inv client payloads calls s :=
  Runs.run_invariant (Inv client payloads calls) (fun _ _ _ inv stepped => inv_step inv stepped)
    (inv_start readings) ran

/-- A step of the stack is one step of its breaker, or none. -/
theorem step_breaker {s s' : ResilientPool υ μ σ τ ρ} {act : ResilientAct υ ρ}
    (stepped : client.step payloads calls s act = some s') :
    ∃ own, Runs.run (client.breaker.step (pathOf calls)) s.pool own = some s'.pool := by
  rcases step_cases stepped with ⟨own, pool, -, -, moved, rfl⟩ | ⟨k, resume, f, -, -, -, rfl⟩ |
    ⟨k, answer, pool, -, -, moved, rfl⟩
  · exact ⟨[own], Runs.run_cons.mpr ⟨pool, moved, rfl⟩⟩
  · exact ⟨[], rfl⟩
  · exact ⟨[_], Runs.run_cons.mpr ⟨pool, moved, rfl⟩⟩

/-- What was handed over for a call begins what `make` sends, on any readings that go on
from those of the call. -/
theorem Inv.sends {s : ResilientPool υ μ σ τ ρ} (inv : Inv client payloads calls s) (k : Nat)
    {r : Readings υ ρ} (known : (s.future k).Known r) :
    ∃ rest, (client.retry.makeOn (payloads k) (calls k) r).sent = s.handedFor k ++ rest := by
  obtain ⟨n, sound⟩ := inv.sound k
  rw [client.retry.makeOn_eq, inv.handed]
  exact sound.sent known

/-- No call is handed over more often than `max_attempts` allows. -/
theorem Inv.few {s : ResilientPool υ μ σ τ ρ} (inv : Inv client payloads calls s) (k : Nat) :
    (s.handedFor k).length ≤ client.retry.config.maxAttempts.toNat := by
  obtain ⟨rest, sent⟩ := inv.sends k (s.future k).known_self
  have all : (client.retry.makeOn (payloads k) (calls k) (s.future k).readings).sent.length ≤
      client.retry.config.maxAttempts.toNat := client.retry.make_sent_length_le _ _
  rw [sent, List.length_append] at all
  exact Nat.le_of_add_right_le all

/-- A call that was handed over got past its admission. -/
theorem Inv.admitted {s : ResilientPool υ μ σ τ ρ} (inv : Inv client payloads calls s)
    {k : Nat} {call : EgressCall μ σ τ} (member : (k, call) ∈ s.handed) :
    .reached k ∈ marks s.pool.log := by
  refine inv.reached k (Bool.eq_false_iff.mpr fun early => ?_)
  have nothing : s.handedFor k = [] := (inv.handed k).trans (inv.waiting k early).2
  have here : call ∈ s.handedFor k :=
    List.mem_map.mpr ⟨(k, call), List.mem_filter.mpr ⟨member, beq_self_eq_true k⟩, rfl⟩
  rw [nothing] at here
  cases here

end GrpcResilientClient

/-! ## What a step hands over -/

namespace GrpcResilientClient

variable {υ μ σ τ ρ : Type} {client : GrpcResilientClient υ} {payloads : Nat → Payload μ}
  {calls : Nat → EgressCall μ σ τ}

/-- Only the loop of a running call hands anything over. -/
theorem running_of_handed {s s' : ResilientPool υ μ σ τ ρ} {act : ResilientAct υ ρ}
    (stepped : client.step payloads calls s act = some s') {k : Nat} {call : EgressCall μ σ τ}
    (handed : (k, call) ∈ s'.handed.drop s.handed.length) : s.running k = true := by
  rcases step_cases stepped with ⟨own, pool, -, -, -, rfl⟩ | ⟨j, resume, f, -, running, -, rfl⟩ |
    ⟨j, answer, pool, -, -, -, rfl⟩
  · rw [List.drop_length] at handed
    cases handed
  · rw [ResilientPool.resumed, List.drop_left] at handed
    obtain ⟨_, -, same⟩ := List.mem_map.mp handed
    cases same
    exact running
  · rw [List.drop_length] at handed
    cases handed

/-- What a call that was dropped in `s` has come to: it stands where it stood, and nothing
that the breaker has noted since is about it. -/
structure Silent (k : Nat) (s t : ResilientPool υ μ σ τ ρ) : Prop where
  gone : t.pool.dropped k = true
  phase : t.pool.phase k = s.pool.phase k
  future : t.future k = s.future k
  handed : t.handedFor k = s.handedFor k
  log : ∃ notes, t.pool.log = notes ++ s.pool.log ∧ ∀ note ∈ notes, note.mark.call ≠ k

theorem silent_step {k : Nat} {s t t' : ResilientPool υ μ σ τ ρ} {act : ResilientAct υ ρ}
    (silent : Silent k s t) (stepped : client.step payloads calls t act = some t') :
    Silent k s t' := by
  have alive : ∀ {j}, t.pool.dropped j = false → j ≠ k := by
    rintro j lives rfl
    rw [silent.gone] at lives
    cases lives
  obtain ⟨before, log, about⟩ := silent.log
  rcases step_cases stepped with ⟨own, pool, -, mine, moved, rfl⟩ |
    ⟨j, resume, f, -, running, -, rfl⟩ | ⟨j, answer, pool, -, -, moved, rfl⟩
  · have onwards := GrpcBreakerClient.step_onwards mine moved
    obtain ⟨notes, more, now⟩ := onwards.notes
    refine ⟨onwards.dropped k silent.gone, (onwards.gone k silent.gone).trans silent.phase,
      silent.future, silent.handed, notes ++ before, ?_, ?_⟩
    · show pool.log = _
      rw [more, log, List.append_assoc]
    · exact List.forall_mem_append.mpr ⟨fun note member => alive (now note member).2, about⟩
  · have other : k ≠ j := (alive (running_iff.mp running).1).symm
    refine ⟨silent.gone, silent.phase, (if_neg other).trans silent.future, ?_, before, log, about⟩
    rw [handedFor_resumed, if_neg other, List.append_nil]
    exact silent.handed
  · obtain ⟨lives, -, rfl⟩ := GrpcBreakerClient.step_answer moved
    exact ⟨silent.gone, (Pool.move_phase_other _ _ _ (alive lives).symm).trans silent.phase,
      silent.future, silent.handed, _ :: before, congrArg (List.cons _) log,
      List.forall_mem_cons.mpr ⟨alive lives, about⟩⟩

/-! ## An open circuit -/

/-- The condition on a step of the breaker under which an open circuit keeps its promise. -/
def OrderlyStep (client : GrpcResilientClient υ) (s : ResilientPool υ μ σ τ ρ) :
    ResilientAct υ ρ → Prop
  | .breaker own => client.breaker.Orderly s.pool own
  | _ => True

instance (client : GrpcResilientClient υ) (s : ResilientPool υ μ σ τ ρ) :
    (act : ResilientAct υ ρ) → Decidable (client.OrderlyStep s act)
  | .breaker own => inferInstanceAs (Decidable (client.breaker.Orderly s.pool own))
  | .poll _ | .answer _ _ _ | .finish _ => .isTrue trivial

/-- Nothing in the log is of a later time. -/
def Dated (pool : Pool) : Prop := ∀ note ∈ pool.log, note.time ≤ pool.clock

theorem dated_step {s s' : ResilientPool υ μ σ τ ρ} {act : ResilientAct υ ρ}
    (dated : Dated s.pool) (stepped : client.step payloads calls s act = some s') :
    Dated s'.pool := by
  rcases step_cases stepped with ⟨own, pool, -, mine, moved, rfl⟩ | ⟨j, resume, f, -, -, -, rfl⟩ |
    ⟨j, answer, pool, -, -, moved, rfl⟩
  · have onwards := GrpcBreakerClient.step_onwards mine moved
    obtain ⟨notes, log, now⟩ := onwards.notes
    intro note member
    rcases List.mem_append.mp (log ▸ member : note ∈ notes ++ s.pool.log) with new | old
    · rw [(now note new).1]
      exact onwards.clock
    · exact Nat.le_trans (dated note old) onwards.clock
  · exact dated
  · obtain ⟨-, -, rfl⟩ := GrpcBreakerClient.step_answer moved
    exact List.forall_mem_cons.mpr ⟨Nat.le_refl _, dated⟩

theorem sound_breaker (documented : client.breaker.transition.Documented)
    (enabled : client.breaker.config.enabled = true) {s s' : ResilientPool υ μ σ τ ρ}
    {act : ResilientAct υ ρ} (sound : client.breaker.Sound s.pool)
    (orderly : client.OrderlyStep s act)
    (stepped : client.step payloads calls s act = some s') : client.breaker.Sound s'.pool := by
  rcases step_cases stepped with ⟨own, pool, rfl, -, moved, rfl⟩ | ⟨j, resume, f, -, -, -, rfl⟩ |
    ⟨j, answer, pool, -, -, moved, rfl⟩
  · exact GrpcBreakerClient.sound_step documented sound orderly
      (GrpcBreakerClient.step_cases enabled moved)
  · exact sound
  · have always : client.breaker.Orderly s.pool (.answer j (forget answer)) := ⟨trivial, trivial⟩
    exact GrpcBreakerClient.sound_step documented sound always
      (GrpcBreakerClient.step_cases enabled moved)

end GrpcResilientClient

/-! ## Counting by key -/

/-- Entries whose keys are all among `keys`, no key with more than `most` of them. -/
theorem length_le_of_keys {α : Type} {most : Nat} {keys : List Nat} {entries : List (Nat × α)}
    (few : ∀ k, (entries.filter fun entry => entry.1 == k).length ≤ most)
    (known : ∀ entry ∈ entries, entry.1 ∈ keys) : entries.length ≤ most * keys.length := by
  induction keys generalizing entries with
  | nil =>
    cases entries with
    | nil => exact Nat.zero_le _
    | cons entry entries => cases known entry List.mem_cons_self
  | cons key keys ih =>
    -- The entries of the first key, and then the others.
    have rest : entries.countP (fun entry => ¬(entry.1 == key) = true) ≤ most * keys.length := by
      rw [List.countP_eq_length_filter]
      refine ih (fun k => ?_) fun entry member => ?_
      · refine Nat.le_trans (List.Sublist.length_le ?_) (few k)
        exact List.filter_sublist.filter _
      · obtain ⟨here, other⟩ := List.mem_filter.mp member
        rcases List.mem_cons.mp (known entry here) with same | later
        · rw [same, beq_self_eq_true] at other
          cases other
        · exact later
    have first := few key
    rw [← List.countP_eq_length_filter] at first
    rw [List.length_cons, Nat.mul_succ, Nat.add_comm,
      List.length_eq_countP_add_countP fun entry => entry.1 == key]
    exact Nat.add_le_add first rest

/-- The call that a mark says reached the wrapped client. -/
def Mark.admitted : Mark → Option Nat
  | .reached call => some call
  | _ => none

/-- The calls that the breaker let through. -/
def letThrough (log : List Note) : List Nat := (marks log).filterMap Mark.admitted

/-- The bare client is given no more calls than `max_attempts` for each call that was let
through, and none for any other. -/
theorem GrpcResilientClient.Inv.load {υ μ σ τ ρ : Type} {client : GrpcResilientClient υ}
    {payloads : Nat → Payload μ} {calls : Nat → EgressCall μ σ τ} {s : ResilientPool υ μ σ τ ρ}
    (inv : Inv client payloads calls s) :
    (∀ entry ∈ s.handed, entry.1 ∈ letThrough s.pool.log) ∧
    s.handed.length ≤ client.retry.config.maxAttempts.toNat * (letThrough s.pool.log).length := by
  have known : ∀ entry ∈ s.handed, entry.1 ∈ letThrough s.pool.log := fun entry member =>
    List.mem_filterMap.mpr ⟨_, inv.admitted member, rfl⟩
  refine ⟨known, length_le_of_keys (fun k => ?_) known⟩
  have few := inv.few k
  rw [ResilientPool.handedFor, List.length_map] at few
  exact few

open GrpcResilientClient

section

variable {υ μ σ τ ρ : Type} (client : GrpcResilientClient υ) (payloads : Nat → Payload μ)
  (calls : Nat → EgressCall μ σ τ) (readings : Nat → Readings υ ρ)

/-- Any number of calls on their way through a resilient client, their steps in any order,
the bare client answering anything at any time and futures dropped anywhere. The breaker
does what it does by itself. A call that it has not let through sends nothing; one that it
has sends what `make` sends on the readings of that call; and what the breaker is told of
a call is the outcome of `make`, all of whose attempts have been made by then. -/
theorem overlapping_calls_are_sequential (acts : List (ResilientAct υ ρ))
    (s : ResilientPool υ μ σ τ ρ)
    (ran : Runs.run (client.step payloads calls) (.start readings) acts = some s) :
    (∃ own, Runs.run (client.breaker.step (pathOf calls)) .start own = some s.pool) ∧
    ∀ k,
      ((s.pool.phase k).isEarly = true → s.handedFor k = []) ∧
      (∀ r, (s.future k).Known r →
        ∃ rest, (client.retry.makeOn (payloads k) (calls k) r).sent = s.handedFor k ++ rest) ∧
      ∀ result, (s.pool.phase k).held = some result →
        (client.retry.makeOn (payloads k) (calls k) (s.future k).readings).sent = s.handedFor k ∧
        (client.retry.makeOn (payloads k) (calls k) (s.future k).readings).result.map forget =
          some result := by
  have inv := run_inv ran
  refine ⟨Runs.run_simulation ResilientPool.pool (fun _ _ _ => step_breaker) ran,
    fun k => ⟨?_, ?_, ?_⟩⟩
  · exact fun early => (inv.handed k).trans (inv.waiting k early).2
  · exact fun r known => inv.sends k known
  · intro result held
    obtain ⟨answer, done, told⟩ := inv.told k result held
    obtain ⟨n, sound⟩ := inv.sound k
    rw [client.retry.makeOn_eq, sound.outcome done, inv.handed]
    exact ⟨rfl, congrArg some told⟩

/-- However the calls overlap, the bare client is given no more calls than `max_attempts`
for each one that the breaker let through, and none for any other. -/
theorem attempts_of_admitted_calls (acts : List (ResilientAct υ ρ)) (s : ResilientPool υ μ σ τ ρ)
    (ran : Runs.run (client.step payloads calls) (.start readings) acts = some s) :
    (∀ entry ∈ s.handed, entry.1 ∈ letThrough s.pool.log) ∧
    s.handed.length ≤ client.retry.config.maxAttempts.toNat * (letThrough s.pool.log).length := by
  exact (run_inv ran).load

/-- A call whose future was dropped, at whatever point: from then on it hands nothing over,
its loop and its place at the breaker stand still, and nothing that the breaker does is
done for it. -/
theorem dropped_call_is_silent (s t : ResilientPool υ μ σ τ ρ) (k : Nat)
    (gone : s.pool.dropped k = true) (acts : List (ResilientAct υ ρ))
    (ran : Runs.run (client.step payloads calls) s acts = some t) : Silent k s t :=
  Runs.run_invariant (Silent k s) (fun _ _ _ silent stepped => silent_step silent stepped)
    ⟨gone, rfl, rfl, rfl, [], rfl, fun _ member => nomatch member⟩ ran

/-- While a circuit that opened cools down, the bare client is given attempts only of calls
that the breaker had let through before the circuit opened. -/
theorem open_circuit_attempts (documented : client.breaker.transition.Documented)
    (enabled : client.breaker.config.enabled = true) (acts : List (ResilientAct υ ρ))
    (s : ResilientPool υ μ σ τ ρ)
    (orderly : Runs.AllSteps (client.step payloads calls) client.OrderlyStep (.start readings) acts)
    (ran : Runs.run (client.step payloads calls) (.start readings) acts = some s)
    (act : ResilientAct υ ρ) (s' : ResilientPool υ μ σ τ ρ)
    (stepped : client.step payloads calls s act = some s') (k : Nat) (call : EgressCall μ σ τ)
    (handed : (k, call) ∈ s'.handed.drop s.handed.length) (after before : List Note)
    (time opener since : Nat)
    (opened : s.pool.log = after ++ ⟨time, .opened opener since⟩ :: before)
    (cooling : s.pool.clock < since + client.breaker.coolDown) : .reached k ∈ marks before := by
  have sound : client.breaker.Sound s.pool :=
    Runs.run_invariant_of (fun s => client.breaker.Sound s.pool)
      (fun _ _ _ sound orderly stepped => sound_breaker documented enabled sound orderly stepped)
      GrpcBreakerClient.sound_start orderly ran
  have empty : Dated Pool.start := fun _ member => nomatch member
  have dated : Dated s.pool :=
    Runs.run_invariant (fun s => Dated s.pool) (fun _ _ _ dated stepped => dated_step dated stepped)
      empty ran
  have running := running_iff.mp (running_of_handed stepped handed)
  have reached := (run_inv ran).reached k (by rw [running.2]; rfl)
  rw [opened] at reached
  obtain ⟨note, member, is⟩ := List.mem_map.mp reached
  rcases List.mem_append.mp member with late | early
  · -- A call that was let through since then waited for the cool-down.
    obtain ⟨t, mark⟩ := note
    dsimp only at is
    subst is
    have waited := sound.shut after before time opener since opened k t late
    have now := dated _ (opened ▸ member)
    exact absurd (Nat.lt_of_lt_of_le cooling waited) (Nat.not_lt.mpr now)
  · rcases List.mem_cons.mp early with rfl | earlier
    · cases is
    · exact List.mem_map.mpr ⟨note, earlier, is⟩

end

/-! ## Two calls, one of which opens the circuit -/

namespace TwoCalls

/-- Three attempts inside a breaker that one failure opens. -/
def client : GrpcResilientClient Unit := ⟨oneFailureBreaker, SecondAttempt.client⟩

def payloads (_ : Nat) : Payload Unit := OneAttempt.empty

def calls (_ : Nat) : EgressCall Unit Unit Unit := SecondAttempt.call

def readings (_ : Nat) : Readings Unit (List UInt8) := SecondAttempt.unread

/-- The first attempt of call 1 does not reach the peer; meanwhile call 0 fails. -/
def opens : List (ResilientAct Unit (List UInt8)) :=
  [.breaker (.next 0), .breaker (.next 0), .breaker (.next 0), .breaker (.next 1),
    .breaker (.next 1), .breaker (.next 1), .poll 0, .poll 1,
    .answer 1 (.error (.transport "/test.Peer/Echo" .unavailable "")) (),
    .answer 0 (.error (.status "/test.Peer/Echo" .internal "" .empty)) (), .finish 0,
    .breaker (.next 0), .breaker (.next 0), .breaker (.next 0)]

/-- The second attempt of call 1 is answered. -/
def answered : List (ResilientAct Unit (List UInt8)) :=
  [.poll 1, .answer 1 (.ok [8]) (), .finish 1]

/-- Call 1 is dropped during its pause, and another call asks the breaker. -/
def dropped : List (ResilientAct Unit (List UInt8)) :=
  [.breaker (.next 2), .breaker (.next 2), .breaker (.next 2)]

end TwoCalls

open TwoCalls in
/-- `overlapping_calls_are_sequential` for the call that is answered. -/
theorem overlapping_calls_are_sequential_two :
    ∃ s, Runs.run (client.step payloads calls) (.start readings) (opens ++ answered) = some s ∧
      (s.pool.phase 1).held = some (.ok ()) ∧
      (client.retry.makeOn (payloads 1) (calls 1) (s.future 1).readings).sent = s.handedFor 1 :=
  ⟨_, rfl, rfl, (((overlapping_calls_are_sequential client payloads calls readings
    (opens ++ answered) _ rfl).2 1).2.2 _ rfl).1⟩

open TwoCalls in
/-- `attempts_of_admitted_calls` for both. -/
theorem attempts_of_admitted_calls_two :
    ∃ s, Runs.run (client.step payloads calls) (.start readings) (opens ++ answered) = some s ∧
      s.handed.length = 3 ∧ s.handed.length ≤ 3 * (letThrough s.pool.log).length :=
  ⟨_, rfl, rfl, (attempts_of_admitted_calls client payloads calls readings
    (opens ++ answered) _ rfl).2⟩

open TwoCalls in
/-- `dropped_call_is_silent` for a call that is dropped during its pause. -/
theorem dropped_call_is_silent_two :
    ∃ s t, Runs.run (client.step payloads calls) (.start readings)
      (opens ++ [.breaker (.drop 1)]) = some s ∧
      Runs.run (client.step payloads calls) s dropped = some t ∧ Silent 1 s t :=
  ⟨_, _, rfl, rfl, dropped_call_is_silent client payloads calls _ _ 1 rfl dropped rfl⟩

open TwoCalls in
/-- `open_circuit_attempts` for the second attempt of call 1, which is made while the
circuit is open. -/
theorem open_circuit_attempts_two :
    ∃ s s', Runs.run (client.step payloads calls) (.start readings) opens = some s ∧
      client.step payloads calls s (.poll 1) = some s' ∧
      s.pool.node.state = .opened 0 ∧ .reached 1 ∈ marks (s.pool.log.drop 1) := by
  have orderly : Runs.AllSteps (client.step payloads calls) client.OrderlyStep (.start readings)
      opens := by decide
  exact ⟨_, _, rfl, rfl, rfl, open_circuit_attempts client payloads calls readings
    BreakerTransition.threeState_documented rfl opens _ orderly rfl (.poll 1) _ rfl 1
    SecondAttempt.call List.mem_cons_self [] _ 0 0 0 rfl (by decide)⟩

end GrpcEgress
