import GrpcEgress.Cancellation.View
import GrpcEgress.Resilient.Progress

/-!
# Cancelled calls of a resilient client

Views of one resilient client, each bound to a signal of its own, and calls through them
that overlap in any order. A future runs only while it is polled, so every step of a call
is made within a poll of its future. A view looks at its signal when a poll begins
(`unlessCancelled`): if the signal has fired, the future of the stack is dropped and the
poll ends with the cancellation. The signal may fire while a poll is under way; then that
poll goes on.

1. `idle_step`: a step of the stack leaves every other call as it is;
2. `boundStep_cases`: a step under views is one step of the stack, or none;
3. `poll_raced`: a poll through a view is what `race` makes of a poll of the stack;
4. `cancelled_calls_of_stack`: what a signal does to the calls of its view;
5. `other_calls_of_stack`: the calls of the other views do what they do without any view.
-/

namespace GrpcEgress

open StdFailureClassifier

/-! ## The other calls -/

namespace GrpcBreakerClient

variable {b : GrpcBreakerClient} {paths : Nat → String}

/-- What is noted when a call makes its next step is about that call. -/
theorem advances_notes {pool pool' : Pool} {call : Nat}
    (advances : b.Advances paths pool call pool') : pool.Notes pool' call := by
  cases advances with
  | begins | passes => exact (Pool.Notes.none rfl).note rfl rfl
  | admitFails | admits | looks | leaves | recordFails | records => exact .none rfl
  | refuses => exact .write _ _ _
  | proceeds => exact (Pool.Notes.write _ _ _).note (Pool.write_clock _ _ _) rfl
  | returns => exact .writeRecord _ _ _

/-- A call that is over makes no step. -/
theorem not_isOver_of_advances {pool pool' : Pool} {call : Nat}
    (advances : b.Advances paths pool call pool') : (pool.phase call).isOver = false := by
  cases advances with
  | begins _ stands | passes _ stands | looks _ stands | leaves _ stands => rw [stands]; rfl
  | admitFails stands | admits stands | refuses stands | proceeds stands => rw [stands]; rfl
  | recordFails stands | records stands | returns stands => rw [stands]; rfl

end GrpcBreakerClient

namespace GrpcResilientClient

variable {υ μ σ τ ρ : Type} {client : GrpcResilientClient υ} {payloads : Nat → Payload μ}
  {calls : Nat → EgressCall μ σ τ}

/-- From one state to another, call `k` has done nothing: it stands where it stood, has
handed nothing over, and nothing was noted about it. -/
structure Idle (k : Nat) (s t : ResilientPool υ μ σ τ ρ) : Prop where
  phase : t.pool.phase k = s.pool.phase k
  future : t.future k = s.future k
  handed : t.handedFor k = s.handedFor k
  log : ∃ notes, t.pool.log = notes ++ s.pool.log ∧ ∀ note ∈ notes, note.mark.call ≠ k

theorem Idle.refl (k : Nat) (s : ResilientPool υ μ σ τ ρ) : Idle k s s :=
  ⟨rfl, rfl, rfl, [], rfl, fun _ member => nomatch member⟩

theorem Idle.trans {k : Nat} {s t t' : ResilientPool υ μ σ τ ρ} (first : Idle k s t)
    (second : Idle k t t') : Idle k s t' := by
  obtain ⟨before, log, about⟩ := first.log
  obtain ⟨later, more, about'⟩ := second.log
  refine ⟨second.phase.trans first.phase, second.future.trans first.future,
    second.handed.trans first.handed, later ++ before, ?_, ?_⟩
  · rw [more, log, List.append_assoc]
  · exact List.forall_mem_append.mpr ⟨about', about⟩

/-- The steps of the stack are those of one call, or of none. -/
theorem idle_step {k : Nat} {s s' : ResilientPool υ μ σ τ ρ} {act : ResilientAct υ ρ}
    (stepped : client.step payloads calls s act = some s') (other : act.owner ≠ some k) :
    Idle k s s' := by
  rcases step_cases stepped with ⟨own, pool, rfl, mine, moved, rfl⟩ |
    ⟨j, resume, f, owner, -, -, rfl⟩ | ⟨j, answer, pool, rfl, -, moved, rfl⟩
  · cases own with
    | tick nanos =>
      cases moved
      exact ⟨rfl, rfl, rfl, [], rfl, fun _ member => nomatch member⟩
    | drop call =>
      cases moved
      exact ⟨rfl, rfl, rfl, [], rfl, fun _ member => nomatch member⟩
    | answer call result => exact absurd rfl (mine call result)
    | next call =>
      have ne : k ≠ call := fun same => other (congrArg some same.symm)
      simp only [GrpcBreakerClient.step] at moved
      split at moved
      · cases moved
      have advances := GrpcBreakerClient.advances_of_advance moved
      obtain ⟨dest, -, phases⟩ := GrpcBreakerClient.advances_stage advances
      obtain ⟨notes, log, about⟩ := GrpcBreakerClient.advances_notes advances
      refine ⟨?_, rfl, rfl, notes, log, fun note member => ?_⟩
      · show pool.phase k = _
        rw [phases]
        exact Pool.move_phase_other _ _ _ ne
      · rw [(about note member).2]
        exact ne.symm
  · have ne : k ≠ j := fun same => other (owner.trans (congrArg some same.symm))
    refine ⟨rfl, if_neg ne, ?_, [], rfl, fun _ member => nomatch member⟩
    rw [handedFor_resumed, if_neg ne, List.append_nil]
  · have ne : k ≠ j := fun same => other (congrArg some same.symm)
    obtain ⟨-, -, rfl⟩ := GrpcBreakerClient.step_answer moved
    exact ⟨Pool.move_phase_other _ _ _ ne, rfl, rfl, [_], rfl,
      List.forall_mem_cons.mpr ⟨ne.symm, fun _ member => nomatch member⟩⟩

/-- A call that makes a step is alive and not over. -/
theorem alive_of_step {k : Nat} {s s' : ResilientPool υ μ σ τ ρ} {act : ResilientAct υ ρ}
    (stepped : client.step payloads calls s act = some s') (own : act.owner = some k) :
    s.pool.dropped k = false ∧ (s.pool.phase k).isOver = false := by
  rcases step_cases stepped with ⟨act, pool, rfl, mine, moved, rfl⟩ |
    ⟨j, resume, f, owner, running, -, rfl⟩ | ⟨j, answer, pool, rfl, -, moved, rfl⟩
  · cases act with
    | tick nanos => cases own
    | drop call => cases own
    | answer call result => exact absurd rfl (mine call result)
    | next call =>
      cases own
      simp only [GrpcBreakerClient.step] at moved
      split at moved
      · cases moved
      · next lives =>
        exact ⟨Bool.eq_false_iff.mpr lives, GrpcBreakerClient.not_isOver_of_advances
          (GrpcBreakerClient.advances_of_advance moved)⟩
  · cases owner.symm.trans own
    obtain ⟨lives, calling⟩ := running_iff.mp running
    exact ⟨lives, by rw [calling]; rfl⟩
  · cases own
    obtain ⟨lives, calling, -⟩ := GrpcBreakerClient.step_answer moved
    exact ⟨lives, by rw [calling]; rfl⟩

/-- A call that was dropped stays so. -/
theorem dropped_step {k : Nat} {s s' : ResilientPool υ μ σ τ ρ} {act : ResilientAct υ ρ}
    (stepped : client.step payloads calls s act = some s') (gone : s.pool.dropped k = true) :
    s'.pool.dropped k = true := by
  rcases step_cases stepped with ⟨own, pool, -, mine, moved, rfl⟩ |
    ⟨j, resume, f, -, -, -, rfl⟩ | ⟨j, answer, pool, -, -, moved, rfl⟩
  · exact (GrpcBreakerClient.step_onwards mine moved).dropped k gone
  · exact gone
  · obtain ⟨-, -, rfl⟩ := GrpcBreakerClient.step_answer moved
    exact gone

end GrpcResilientClient

/-! ## Calls under views -/

/-- A resilient client with views on it: the views whose signals have fired, the calls whose
futures are being polled, and the calls that ended cancelled, oldest first, each with what
its caller was told. -/
structure BoundPool (υ μ σ τ ρ : Type) where
  stack : ResilientPool υ μ σ τ ρ
  fired : Nat → Bool
  polled : Nat → Bool
  cancelled : List (Nat × CallError)

/-- What can happen next: a signal fires, a poll of a call begins or ends, or the stack makes
a step. -/
inductive BoundAct (υ ρ : Type) where
  | fire (view : Nat)
  | poll (call : Nat)
  | yields (call : Nat)
  | stack (act : ResilientAct υ ρ)

namespace BoundPool

variable {υ μ σ τ ρ : Type}

/-- No call has begun and no signal has fired. -/
def start (readings : Nat → Readings υ ρ) : BoundPool υ μ σ τ ρ :=
  ⟨.start readings, fun _ => false, fun _ => false, []⟩

/-- A call makes its steps while it is polled, and is not dropped meanwhile. -/
def allows (s : BoundPool υ μ σ τ ρ) (act : ResilientAct υ ρ) : Bool :=
  match act, act.owner with
  | .breaker (.drop k), _ => !s.polled k
  | _, some k => s.polled k
  | _, none => true

/-- The future of call `k` can be polled. -/
def ready (s : BoundPool υ μ σ τ ρ) (k : Nat) : Bool :=
  !s.polled k && !s.stack.pool.dropped k && !(s.stack.pool.phase k).isOver

theorem ready_iff {s : BoundPool υ μ σ τ ρ} {k : Nat} :
    s.ready k = true ↔ s.polled k = false ∧ s.stack.pool.dropped k = false ∧
      (s.stack.pool.phase k).isOver = false := by
  simp only [ready, Bool.and_eq_true, Bool.not_eq_true', and_assoc]

/-- A call that makes a step is being polled. -/
theorem polled_of_allows {s : BoundPool υ μ σ τ ρ} {act : ResilientAct υ ρ} {k : Nat}
    (allowed : s.allows act = true) (own : act.owner = some k) : s.polled k = true := by
  cases act with
  | breaker act =>
    cases act with
    | next call => cases own; exact allowed
    | tick | answer | drop => cases own
  | poll | answer | finish => cases own; exact allowed

theorem allows_of_polled {s : BoundPool υ μ σ τ ρ} {act : ResilientAct υ ρ} {k : Nat}
    (own : act.owner = some k) (polled : s.polled k = true) : s.allows act = true := by
  cases act with
  | breaker act =>
    cases act with
    | next call => cases own; exact polled
    | tick | answer | drop => cases own
  | poll | answer | finish => cases own; exact polled

/-- Between polls, the steps that are of no call can all be made. -/
theorem allows_of_none {s : BoundPool υ μ σ τ ρ} {act : ResilientAct υ ρ}
    (settled : ∀ k, s.polled k = false) (own : act.owner = none) : s.allows act = true := by
  cases act with
  | breaker act =>
    cases act with
    | next call => cases own
    | drop call => exact congrArg not (settled call)
    | tick | answer => rfl
  | poll | answer | finish => cases own

end BoundPool

namespace GrpcResilientClient

section

variable {υ μ σ τ ρ : Type} (client : GrpcResilientClient υ) (payloads : Nat → Payload μ)
  (calls : Nat → EgressCall μ σ τ) (view : Nat → Nat)

/-- One step of a client with views on it. Call `k` is made through `view k`. -/
def boundStep (s : BoundPool υ μ σ τ ρ) : BoundAct υ ρ → Option (BoundPool υ μ σ τ ρ)
  | .fire v => some { s with fired := fun i => if i = v then true else s.fired i }
  | .poll k =>
    if s.ready k then
      if s.fired (view k) then
        (client.step payloads calls s.stack (.breaker (.drop k))).map fun stack =>
          { s with
            stack := stack
            cancelled := s.cancelled ++ [(k, CancellableTransport.cancelled (calls k).path)] }
      else some { s with polled := fun j => if j = k then true else s.polled j }
    else none
  | .yields k =>
    if s.polled k then some { s with polled := fun j => if j = k then false else s.polled j }
    else none
  | .stack act =>
    if s.allows act then
      (client.step payloads calls s.stack act).map fun stack => { s with stack := stack }
    else none

end

section

variable {υ μ σ τ ρ : Type} {client : GrpcResilientClient υ} {payloads : Nat → Payload μ}
  {calls : Nat → EgressCall μ σ τ} {view : Nat → Nat}

/-- The stack after the future of call `k` was dropped. -/
def dropCall (s : ResilientPool υ μ σ τ ρ) (k : Nat) : ResilientPool υ μ σ τ ρ :=
  { s with pool := { s.pool with dropped := fun j => if j = k then true else s.pool.dropped j } }

theorem step_drop (s : ResilientPool υ μ σ τ ρ) (k : Nat) :
    client.step payloads calls s (.breaker (.drop k)) = some (dropCall s k) := rfl

theorem idle_dropCall (k : Nat) (s : ResilientPool υ μ σ τ ρ) (j : Nat) :
    Idle k s (dropCall s j) := ⟨rfl, rfl, rfl, [], rfl, fun _ member => nomatch member⟩

/-- All that a step under views can do. -/
theorem boundStep_cases {s s' : BoundPool υ μ σ τ ρ} {act : BoundAct υ ρ}
    (stepped : client.boundStep payloads calls view s act = some s') :
    (∃ v, act = .fire v ∧ s' = { s with fired := fun i => if i = v then true else s.fired i }) ∨
    (∃ k, act = .poll k ∧ s.ready k = true ∧ s.fired (view k) = true ∧
      s' = { s with
        stack := dropCall s.stack k
        cancelled := s.cancelled ++ [(k, CancellableTransport.cancelled (calls k).path)] }) ∨
    (∃ k, act = .poll k ∧ s.fired (view k) = false ∧
      s' = { s with polled := fun j => if j = k then true else s.polled j }) ∨
    (∃ k, act = .yields k ∧
      s' = { s with polled := fun j => if j = k then false else s.polled j }) ∨
    ∃ own stack, act = .stack own ∧ s.allows own = true ∧
      client.step payloads calls s.stack own = some stack ∧ s' = { s with stack := stack } := by
  cases act with
  | fire v => exact .inl ⟨v, rfl, (Option.some.inj stepped).symm⟩
  | poll k =>
    simp only [boundStep] at stepped
    split at stepped
    · next ready =>
      split at stepped
      · next fired =>
        rw [step_drop, Option.map_some, Option.some.injEq] at stepped
        exact .inr (.inl ⟨k, rfl, ready, fired, stepped.symm⟩)
      · next quiet =>
        exact .inr (.inr (.inl ⟨k, rfl, Bool.eq_false_iff.mpr quiet,
          (Option.some.inj stepped).symm⟩))
    · cases stepped
  | yields k =>
    simp only [boundStep] at stepped
    split at stepped
    · exact .inr (.inr (.inr (.inl ⟨k, rfl, (Option.some.inj stepped).symm⟩)))
    · cases stepped
  | stack own =>
    simp only [boundStep] at stepped
    split at stepped
    · next allowed =>
      obtain ⟨stack, moved, rfl⟩ := Option.map_eq_some_iff.mp stepped
      exact .inr (.inr (.inr (.inr ⟨own, stack, rfl, allowed, moved, rfl⟩)))
    · cases stepped

/-- A step under views is one step of the stack, or none. -/
theorem boundStep_stack {s s' : BoundPool υ μ σ τ ρ} {act : BoundAct υ ρ}
    (stepped : client.boundStep payloads calls view s act = some s') :
    ∃ own, Runs.run (client.step payloads calls) s.stack own = some s'.stack := by
  rcases boundStep_cases stepped with ⟨v, -, rfl⟩ | ⟨k, -, -, -, rfl⟩ | ⟨k, -, -, rfl⟩ |
    ⟨k, -, rfl⟩ | ⟨own, stack, -, -, moved, rfl⟩
  · exact ⟨[], rfl⟩
  · exact ⟨[.breaker (.drop k)], rfl⟩
  · exact ⟨[], rfl⟩
  · exact ⟨[], rfl⟩
  · exact ⟨[own], Runs.run_cons.mpr ⟨stack, moved, rfl⟩⟩

/-- A poll of a future whose signal has fired. -/
theorem boundStep_fired {s : BoundPool υ μ σ τ ρ} {k : Nat} (ready : s.ready k = true)
    (fired : s.fired (view k) = true) :
    client.boundStep payloads calls view s (.poll k) = some { s with
      stack := dropCall s.stack k
      cancelled := s.cancelled ++ [(k, CancellableTransport.cancelled (calls k).path)] } := by
  rw [boundStep, if_pos ready, if_pos fired]
  rfl

/-- The steps that a call makes while it is polled. -/
theorem run_polled {k : Nat} {own : List (ResilientAct υ ρ)} {t : ResilientPool υ μ σ τ ρ}
    (mine : ∀ act ∈ own, act.owner = some k) : ∀ {s : BoundPool υ μ σ τ ρ}, s.polled k = true →
      Runs.run (client.step payloads calls) s.stack own = some t →
      Runs.run (client.boundStep payloads calls view) s (own.map .stack) =
        some { s with stack := t } := by
  induction own with
  | nil =>
    intro s _ went
    cases went
    rfl
  | cons act own ih =>
    intro s polled went
    obtain ⟨stack, stepped, rest⟩ := Runs.run_cons.mp went
    obtain ⟨first, later⟩ := List.forall_mem_cons.mp mine
    refine Runs.run_cons.mpr ⟨{ s with stack := stack }, ?_, ih later polled rest⟩
    rw [boundStep, if_pos (BoundPool.allows_of_polled first polled), stepped, Option.map_some]

/-- A poll of a future whose signal has not fired, from its beginning to its end. -/
theorem run_poll {s : BoundPool υ μ σ τ ρ} {k : Nat} {own : List (ResilientAct υ ρ)}
    {t : ResilientPool υ μ σ τ ρ} (ready : s.ready k = true) (quiet : s.fired (view k) = false)
    (mine : ∀ act ∈ own, act.owner = some k)
    (went : Runs.run (client.step payloads calls) s.stack own = some t) :
    Runs.run (client.boundStep payloads calls view) s (.poll k :: own.map .stack ++ [.yields k]) =
      some { s with stack := t } := by
  let polling : BoundPool υ μ σ τ ρ :=
    { s with polled := fun j => if j = k then true else s.polled j }
  have begins : client.boundStep payloads calls view s (.poll k) = some polling := by
    rw [boundStep, if_pos ready, if_neg (Bool.eq_false_iff.mp quiet)]
  have goes : Runs.run (client.boundStep payloads calls view) polling (own.map .stack) =
      some { polling with stack := t } := run_polled mine (if_pos rfl) went
  have ends : client.boundStep payloads calls view { polling with stack := t } (.yields k) =
      some { s with stack := t } := by
    rw [boundStep, if_pos (if_pos rfl)]
    refine congrArg (fun polled => some { s with stack := t, polled := polled }) ?_
    funext j
    by_cases here : j = k
    · rw [if_pos here, here, (BoundPool.ready_iff.mp ready).1]
    · rw [if_neg here]
      exact if_neg here
  rw [List.cons_append]
  refine Runs.run_cons.mpr ⟨polling, begins, ?_⟩
  rw [Runs.run_append, goes]
  exact Runs.run_cons.mpr ⟨_, ends, rfl⟩

variable (client payloads calls view) in
/-- Whatever steps of call `k` a poll of its future makes, what `race` makes of that poll can
happen to the stack, and the caller is told what `race` answers. -/
def AsRaced (s : BoundPool υ μ σ τ ρ) (k : Nat) : Prop :=
  ∀ (M T H α : Type) (inner : PolledClient (ResilientPool υ μ σ τ ρ) μ σ τ ρ M T H)
    (poll : Polling.Poll (ResilientPool υ μ σ τ ρ) (Except CallError α))
    (own : List (ResilientAct υ ρ)) (polls : Nat) (path : Nat → String),
    inner.drop = (fun k s => dropCall s k) → (∀ act ∈ own, act.owner = some k) →
    Runs.run (client.step payloads calls) s.stack own = some (poll s.stack).1 →
    let raced := CancellableTransport.race inner k (calls k).path poll
      ⟨s.fired (view k), s.stack, polls, path⟩
    ∃ acts s', Runs.run (client.boundStep payloads calls view) s acts = some s' ∧
      s'.stack = raced.1.inner ∧
      (s'.cancelled = s.cancelled ∧ raced.2 = (poll s.stack).2 ∨
        ∃ error, s'.cancelled = s.cancelled ++ [(k, error)] ∧ raced.2 = some (.error error))

theorem poll_raced {s : BoundPool υ μ σ τ ρ} {k : Nat} (ready : s.ready k = true) :
    AsRaced client payloads calls view s k := by
  intro M T H α inner poll own polls path drops mine went
  cases fired : s.fired (view k) with
  | true =>
    rw [CancellableTransport.race, CancellableTransport.unlessCancelled_fired rfl,
      CancellableTransport.dropInner, drops]
    exact ⟨[.poll k], _, Runs.run_cons.mpr ⟨_, boundStep_fired ready fired, rfl⟩, rfl,
      .inr ⟨_, rfl, rfl⟩⟩
  | false =>
    rw [CancellableTransport.race_quiet rfl]
    exact ⟨_, _, run_poll ready fired mine went, rfl, .inl ⟨rfl, rfl⟩⟩

/-! ### Once a signal has fired -/

/-- What was told to the callers of cancelled calls. The stack has no result for such a
call, and will have none, so that no call comes to two ends. -/
structure Told (calls : Nat → EgressCall μ σ τ) (view : Nat → Nat) (s : BoundPool υ μ σ τ ρ) :
    Prop where
  each : ∀ k error, (k, error) ∈ s.cancelled →
    error = .transport (calls k).path .cancelled "the caller cancelled the call" ∧
    s.fired (view k) = true ∧
    s.stack.pool.dropped k = true ∧ (s.stack.pool.phase k).isOver = false
  once : (s.cancelled.map Prod.fst).Nodup

/-- A step of the stack changes nothing for a call that was dropped. -/
theorem gone_step {s s' : ResilientPool υ μ σ τ ρ} {act : ResilientAct υ ρ} {k : Nat}
    (stepped : client.step payloads calls s act = some s') (gone : s.pool.dropped k = true) :
    Idle k s s' := by
  refine idle_step stepped fun own => ?_
  have lives := (alive_of_step stepped own).1
  rw [gone] at lives
  cases lives

theorem told_step {s s' : BoundPool υ μ σ τ ρ} {act : BoundAct υ ρ}
    (told : Told calls view s)
    (stepped : client.boundStep payloads calls view s act = some s') : Told calls view s' := by
  rcases boundStep_cases stepped with ⟨v, -, rfl⟩ | ⟨j, -, ready, fired, rfl⟩ | ⟨j, -, -, rfl⟩ |
    ⟨j, -, rfl⟩ | ⟨own, stack, -, -, moved, rfl⟩
  · refine ⟨fun k error member => ?_, told.once⟩
    obtain ⟨text, fired, rest⟩ := told.each k error member
    refine ⟨text, ?_, rest⟩
    show (if view k = v then true else s.fired (view k)) = true
    rw [fired, ite_self]
  · obtain ⟨-, lives, notOver⟩ := BoundPool.ready_iff.mp ready
    constructor
    · intro k error member
      rcases List.mem_append.mp member with old | new
      · obtain ⟨text, fired', gone, unfinished⟩ := told.each k error old
        refine ⟨text, fired', ?_, unfinished⟩
        show (if k = j then true else s.stack.pool.dropped k) = true
        rw [gone, ite_self]
      · cases List.mem_singleton.mp new
        exact ⟨rfl, fired, if_pos rfl, notOver⟩
    · -- A call that ended cancelled cannot be polled again.
      rw [List.map_append, List.map_singleton]
      refine List.nodup_append.mpr ⟨told.once, List.pairwise_singleton _ _, ?_⟩
      intro k old _ new
      cases List.mem_singleton.mp new
      rintro rfl
      obtain ⟨⟨_, error⟩, member, rfl⟩ := List.mem_map.mp old
      have gone := (told.each _ error member).2.2.1
      rw [lives] at gone
      cases gone
  · exact ⟨told.each, told.once⟩
  · exact ⟨told.each, told.once⟩
  · refine ⟨fun k error member => ?_, told.once⟩
    obtain ⟨text, fired, gone, unfinished⟩ := told.each k error member
    refine ⟨text, fired, dropped_step moved gone, ?_⟩
    rw [(gone_step moved gone).phase]
    exact unfinished

/-- The signal of call `k` has fired, and no poll that began before is under way. -/
structure Cancelling (view : Nat → Nat) (k : Nat) (s : BoundPool υ μ σ τ ρ) : Prop where
  fired : s.fired (view k) = true
  settled : s.polled k = false

theorem cancelling_step {k : Nat} {s s' : BoundPool υ μ σ τ ρ} {act : BoundAct υ ρ}
    (cancelling : Cancelling view k s)
    (stepped : client.boundStep payloads calls view s act = some s') :
    Cancelling view k s' ∧ Idle k s.stack s'.stack := by
  obtain ⟨fired, settled⟩ := cancelling
  rcases boundStep_cases stepped with ⟨v, -, rfl⟩ | ⟨j, -, -, -, rfl⟩ | ⟨j, -, quiet, rfl⟩ |
    ⟨j, -, rfl⟩ | ⟨own, stack, -, allowed, moved, rfl⟩
  · refine ⟨⟨?_, settled⟩, .refl k _⟩
    show (if view k = v then true else s.fired (view k)) = true
    rw [fired, ite_self]
  · exact ⟨⟨fired, settled⟩, idle_dropCall k s.stack j⟩
  · refine ⟨⟨fired, ?_⟩, .refl k _⟩
    have ne : k ≠ j := by
      rintro rfl
      rw [fired] at quiet
      cases quiet
    exact (if_neg ne).trans settled
  · refine ⟨⟨fired, ?_⟩, .refl k _⟩
    show (if k = j then false else s.polled k) = false
    rw [settled, ite_self]
  · refine ⟨⟨fired, settled⟩, idle_step moved fun own => ?_⟩
    rw [BoundPool.polled_of_allows allowed own] at settled
    cases settled

/-! ### While a signal has not fired -/

/-- A step of the stack, made in a poll that begins and ends with it. -/
theorem boundStep_free {s : BoundPool υ μ σ τ ρ} {stack : ResilientPool υ μ σ τ ρ}
    {act : ResilientAct υ ρ} (settled : ∀ k, s.polled k = false)
    (free : ∀ k, act.owner = some k → s.fired (view k) = false)
    (stepped : client.step payloads calls s.stack act = some stack) :
    ∃ acts, Runs.run (client.boundStep payloads calls view) s acts =
      some { s with stack := stack } := by
  cases own : act.owner with
  | none =>
    refine ⟨[.stack act], Runs.run_cons.mpr ⟨_, ?_, rfl⟩⟩
    rw [boundStep, if_pos (BoundPool.allows_of_none settled own), stepped, Option.map_some]
  | some k =>
    obtain ⟨lives, notOver⟩ := alive_of_step stepped own
    have mine : ∀ other ∈ [act], other.owner = some k := fun other member => by
      rw [List.mem_singleton.mp member]
      exact own
    exact ⟨_, run_poll (BoundPool.ready_iff.mpr ⟨settled k, lives, notOver⟩) (free k own) mine
      (Runs.run_cons.mpr ⟨stack, stepped, rfl⟩)⟩

theorem run_free {own : List (ResilientAct υ ρ)} {t : ResilientPool υ μ σ τ ρ} :
    ∀ {s : BoundPool υ μ σ τ ρ}, (∀ k, s.polled k = false) →
      (∀ act ∈ own, ∀ k, act.owner = some k → s.fired (view k) = false) →
      Runs.run (client.step payloads calls) s.stack own = some t →
      ∃ acts, Runs.run (client.boundStep payloads calls view) s acts =
        some { s with stack := t } := by
  induction own with
  | nil =>
    intro s _ _ ran
    cases ran
    exact ⟨[], rfl⟩
  | cons act own ih =>
    intro s settled free ran
    obtain ⟨stack, stepped, rest⟩ := Runs.run_cons.mp ran
    obtain ⟨first, toFirst⟩ := boundStep_free settled (free act List.mem_cons_self) stepped
    have later : ∀ act ∈ own, ∀ k, act.owner = some k → s.fired (view k) = false :=
      fun act member => free act (List.mem_cons_of_mem _ member)
    obtain ⟨acts, toLast⟩ := @ih { s with stack := stack } settled later rest
    exact ⟨first ++ acts, by rw [Runs.run_append, toFirst]; exact toLast⟩

end

end GrpcResilientClient

open GrpcResilientClient

section

variable {υ μ σ τ ρ : Type} (client : GrpcResilientClient υ) (payloads : Nat → Payload μ)
  (calls : Nat → EgressCall μ σ τ) (view : Nat → Nat) (readings : Nat → Readings υ ρ)
  (acts : List (BoundAct υ ρ)) (s : BoundPool υ μ σ τ ρ)
  (ran : Runs.run (client.boundStep payloads calls view) (.start readings) acts = some s)

include ran

/-- Calls of one resilient client that are made through views, with signals that fire at any
time: a call is cancelled at most once, only by the signal of its own view, and never after
or before another result. When its signal has fired and no poll that began earlier is under
way, the call does nothing for ever after, and its next poll is answered with the
cancellation of its path. At all times a poll is what `race` makes of it. -/
theorem cancelled_calls_of_stack :
    Told calls view s ∧
    (∀ k, Cancelling view k s →
      (∀ later t, Runs.run (client.boundStep payloads calls view) s later = some t →
        Idle k s.stack t.stack) ∧
      (s.stack.pool.dropped k = false → (s.stack.pool.phase k).isOver = false →
        client.boundStep payloads calls view s (.poll k) = some { s with
          stack := dropCall s.stack k
          cancelled := s.cancelled ++ [(k,
            .transport (calls k).path .cancelled "the caller cancelled the call")] })) ∧
    ∀ k, s.ready k = true → AsRaced client payloads calls view s k := by
  have start : Told calls view (.start readings : BoundPool υ μ σ τ ρ) :=
    { each := fun _ _ member => nomatch member
      once := List.Pairwise.nil }
  refine ⟨Runs.run_invariant (Told calls view) (fun _ _ _ told stepped => told_step told stepped)
    start ran, fun k cancelling => ⟨fun later t went => ?_, fun lives notOver =>
      boundStep_fired (BoundPool.ready_iff.mpr ⟨cancelling.settled, lives, notOver⟩)
        cancelling.fired⟩, fun k ready => poll_raced ready⟩
  exact (Runs.run_invariant (fun t => Cancelling view k t ∧ Idle k s.stack t.stack)
    (fun _ _ _ inv stepped => by
      obtain ⟨still, idle⟩ := cancelling_step inv.1 stepped
      exact ⟨still, inv.2.trans idle⟩) ⟨cancelling, .refl k _⟩ went).2

/-- Under views the stack only comes to states that it comes to without them. Between
polls, whatever was cancelled, all that the calls of the other views can do without any
view they can still do. -/
theorem other_calls_of_stack :
    (∃ own, Runs.run (client.step payloads calls) (.start readings) own = some s.stack) ∧
    ∀ own t, (∀ k, s.polled k = false) →
      (∀ act ∈ own, ∀ k, act.owner = some k → s.fired (view k) = false) →
      Runs.run (client.step payloads calls) s.stack own = some t →
      ∃ later, Runs.run (client.boundStep payloads calls view) s later =
        some { s with stack := t } :=
  ⟨Runs.run_simulation BoundPool.stack (fun _ _ _ stepped => boundStep_stack stepped) ran,
    fun _ _ settled free went => run_free settled free went⟩

end

namespace TwoCalls

/-- Call 1 is made through view 1, every other call through view 0. -/
def view (k : Nat) : Nat := if k = 1 then 1 else 0

/-- The signal of view 1 fires while call 1 is in its first attempt. -/
def fires : List (BoundAct Unit (List UInt8)) :=
  [.poll 1, .stack (.breaker (.next 1)), .stack (.breaker (.next 1)),
    .stack (.breaker (.next 1)), .stack (.poll 1), .yields 1, .fire 1]

/-- Call 0 enters the stack. -/
def enters : List (ResilientAct Unit (List UInt8)) :=
  [.breaker (.next 0), .breaker (.next 0), .breaker (.next 0), .poll 0]

theorem owner_of_enters : ∀ act ∈ enters, act.owner = some 0 := by decide

end TwoCalls

open TwoCalls in
/-- `cancelled_calls_of_stack` for call 1. -/
theorem cancelled_calls_of_stack_two :
    ∃ s s', Runs.run (client.boundStep payloads calls view) (.start readings) fires = some s ∧
      (s.stack.pool.phase 1 = .calling ∧ s.stack.handedFor 1 = [calls 1]) ∧
      Runs.run (client.boundStep payloads calls view) s [.poll 1] = some s' ∧
      Idle 1 s.stack s'.stack ∧
      client.boundStep payloads calls view s (.poll 1) = some { s with
        stack := dropCall s.stack 1
        cancelled := [(1, .transport "/test.Peer/Echo" .cancelled
          "the caller cancelled the call")] } := by
  refine ⟨_, _, rfl, ⟨rfl, rfl⟩, rfl, ?_, ?_⟩
  · exact ((cancelled_calls_of_stack client payloads calls view readings fires _ rfl).2.1 1
      ⟨rfl, rfl⟩).1 [.poll 1] _ rfl
  · exact ((cancelled_calls_of_stack client payloads calls view readings fires _ rfl).2.1 1
      ⟨rfl, rfl⟩).2 rfl rfl

open TwoCalls in
/-- `other_calls_of_stack` for call 0, which enters after call 1 was cancelled. -/
theorem other_calls_of_stack_two :
    ∃ s t, Runs.run (client.boundStep payloads calls view) (.start readings)
        [.fire 1, .poll 1] = some s ∧
      s.cancelled.length = 1 ∧ s.stack.handedFor 0 = [] ∧
      Runs.run (client.step payloads calls) s.stack enters = some t ∧
      t.handedFor 0 = [calls 0] ∧
      ∃ later, Runs.run (client.boundStep payloads calls view) s later =
        some { s with stack := t } := by
  refine ⟨_, _, rfl, rfl, rfl, rfl, rfl, ?_⟩
  refine (other_calls_of_stack client payloads calls view readings [.fire 1, .poll 1] _ rfl).2
    enters _ (fun _ => rfl) (fun act member k own => ?_) rfl
  cases (owner_of_enters act member).symm.trans own
  rfl

end GrpcEgress
