import GrpcEgress.Breaker.Client
import GrpcEgress.Lib.Runs

/-!
# Calls in flight at one breaker

Any number of calls share the node of a breaker behind a mutex. One acquisition
of the mutex is one atomic step, so `admit` is three: it copies the node, asks the
state machine about the copy, and writes the answer back under a second
acquisition. `record` is the same three. `Phase` is the point where the future of
one call stands, with the local variables that are still read.

The future of a call may be dropped between any two of its steps: it makes none
after that, and a copy that it took is never written back.

`log` is a ghost, newest note first: what happened at the mutex and at the wrapped
client, and when. No step reads it.

1. `step_cases`: all that a step can do;
2. `uninterrupted_call`: the steps of one call with no other call in between are
   `admit` and `record` as `GrpcBreakerClient.guard` runs them.
-/

namespace GrpcEgress

open StdFailureClassifier

/-- Where the future of a call stands. -/
inductive Phase where
  /-- Before the first acquisition of `admit`. -/
  | entering
  /-- `admit` has its copy of the node. -/
  | admitting (snapshot : BreakerNode)
  /-- The state machine answered `admit` about the copy, at clock reading `now`. -/
  | admitted (snapshot : BreakerNode) (now : Nat) (node : BreakerNode) (admission : Admission)
  /-- The wrapped client has the call. -/
  | calling
  /-- The wrapped client is done with it. -/
  | answered (result : Except CallError Unit)
  /-- `record` has its copy of the node. -/
  | recording (result : Except CallError Unit) (snapshot : BreakerNode)
  /-- The state machine answered `record` about the copy, at clock reading `now`. -/
  | recorded (result : Except CallError Unit) (snapshot : BreakerNode) (now : Nat)
      (node : BreakerNode)
  | returned (result : Except CallError Unit)
  | refused (error : CallError)
deriving DecidableEq

/-- What the log notes. -/
inductive Mark where
  /-- The `admit` of a call made its first acquisition. -/
  | began (call : Nat)
  /-- A call reached the wrapped client. -/
  | reached (call : Nat)
  /-- A call that reached the wrapped client ended. -/
  | ended (call : Nat) (outcome : Outcome)
  /-- The `record` of a call wrote an open circuit. -/
  | opened (call : Nat) (since : Nat)
  /-- A call wrote a closed circuit over one that was not. -/
  | closed (call : Nat)
deriving DecidableEq

/-- A mark and the clock when it was made. -/
structure Note where
  time : Nat
  mark : Mark
deriving DecidableEq

/-- A breaker with its calls. Call `k` is some call of some shape. -/
structure Pool where
  node : BreakerNode
  clock : Nat
  phase : Nat → Phase
  dropped : Nat → Bool
  log : List Note

namespace Pool

/-- No call has begun. -/
def start : Pool := ⟨.start, 0, fun _ => .entering, fun _ => false, []⟩

/-- The call moves to another phase. -/
def move (pool : Pool) (call : Nat) (dest : Phase) : Pool :=
  { pool with phase := fun k => if k = call then dest else pool.phase k }

/-- A mark is noted. -/
def note (pool : Pool) (mark : Mark) : Pool :=
  { pool with log := ⟨pool.clock, mark⟩ :: pool.log }

/-- The three fields of the node are written. -/
def write (pool : Pool) (call : Nat) (node : BreakerNode) : Pool :=
  let written := { pool with node := node }
  if node.state = .closed ∧ pool.node.state ≠ .closed then written.note (.closed call) else written

/-- `record` writes the node; an open circuit is noted. -/
def writeRecord (pool : Pool) (call : Nat) (node : BreakerNode) : Pool :=
  match node.state with
  | .opened since => (pool.write call node).note (.opened call since)
  | _ => pool.write call node

section

variable (pool : Pool) (call : Nat) (dest : Phase) (mark : Mark) (node : BreakerNode)

@[simp] theorem move_node : (pool.move call dest).node = pool.node := rfl
@[simp] theorem move_clock : (pool.move call dest).clock = pool.clock := rfl
@[simp] theorem move_log : (pool.move call dest).log = pool.log := rfl
@[simp] theorem move_phase_self : (pool.move call dest).phase call = dest := if_pos rfl
@[simp] theorem note_node : (pool.note mark).node = pool.node := rfl
@[simp] theorem note_clock : (pool.note mark).clock = pool.clock := rfl
@[simp] theorem note_phase : (pool.note mark).phase = pool.phase := rfl
@[simp] theorem note_log : (pool.note mark).log = ⟨pool.clock, mark⟩ :: pool.log := rfl

theorem move_phase_other {k : Nat} (other : k ≠ call) :
    (pool.move call dest).phase k = pool.phase k := if_neg other

/-- What holds of every call in its phase still does when one call has moved, if it
holds of that one where it has come to. -/
theorem forall_move {P : Nat → Phase → Prop} {pool mid : Pool} {call : Nat} {dest : Phase}
    (same : mid.phase = pool.phase) (mine : P call dest)
    (others : ∀ k, k ≠ call → P k (pool.phase k)) :
    ∀ k, P k ((mid.move call dest).phase k) := by
  intro k
  by_cases here : k = call
  · rw [here, move_phase_self]
    exact mine
  · rw [move_phase_other _ _ _ here, same]
    exact others k here

@[simp] theorem write_node : (pool.write call node).node = node := by
  unfold write
  split <;> rfl

@[simp] theorem write_clock : (pool.write call node).clock = pool.clock := by
  unfold write
  split <;> rfl

@[simp] theorem write_phase : (pool.write call node).phase = pool.phase := by
  unfold write
  split <;> rfl

@[simp] theorem write_dropped : (pool.write call node).dropped = pool.dropped := by
  unfold write
  split <;> rfl

variable {pool node}

theorem write_log_same (keeps : node.state = .closed → pool.node.state = .closed) :
    (pool.write call node).log = pool.log := by
  unfold write
  split
  · next closing => exact absurd (keeps closing.1) closing.2
  · rfl

theorem write_log_closing (closed : node.state = .closed) (was : pool.node.state ≠ .closed) :
    (pool.write call node).log = ⟨pool.clock, .closed call⟩ :: pool.log := by
  unfold write
  rw [if_pos ⟨closed, was⟩]
  rfl

variable (pool node)

@[simp] theorem writeRecord_node : (pool.writeRecord call node).node = node := by
  unfold writeRecord
  split <;> exact write_node _ _ _

@[simp] theorem writeRecord_clock : (pool.writeRecord call node).clock = pool.clock := by
  unfold writeRecord
  split <;> exact write_clock _ _ _

@[simp] theorem writeRecord_phase : (pool.writeRecord call node).phase = pool.phase := by
  unfold writeRecord
  split <;> exact write_phase _ _ _

variable {pool node}

theorem writeRecord_log_opened {since : Nat} (opened : node.state = .opened since) :
    (pool.writeRecord call node).log = ⟨pool.clock, .opened call since⟩ :: pool.log := by
  have kept : (pool.write call node).log = pool.log :=
    write_log_same call fun closed => by rw [opened] at closed; cases closed
  simp only [writeRecord, opened, note_log, kept, write_clock]

theorem writeRecord_log_same (notOpen : ∀ since, node.state ≠ .opened since)
    (keeps : node.state = .closed → pool.node.state = .closed) :
    (pool.writeRecord call node).log = pool.log := by
  unfold writeRecord
  split
  · next since opened => exact absurd opened (notOpen since)
  · exact write_log_same call keeps

theorem writeRecord_log_closing (closed : node.state = .closed) (was : pool.node.state ≠ .closed) :
    (pool.writeRecord call node).log = ⟨pool.clock, .closed call⟩ :: pool.log := by
  simp only [writeRecord, closed]
  exact write_log_closing call closed was

end

end Pool

/-- What can happen next: time passes, a call makes its next step, the wrapped
client answers a call, or the future of a call is dropped. -/
inductive Act where
  | tick (nanos : Nat)
  | next (call : Nat)
  | answer (call : Nat) (result : Except CallError Unit)
  | drop (call : Nat)
deriving DecidableEq

namespace GrpcBreakerClient

variable (b : GrpcBreakerClient) (paths : Nat → String)

/-- The next step of a call, from the phase it is in. -/
def advance (pool : Pool) (call : Nat) : Phase → Option Pool
  | .entering =>
    if b.config.enabled then some ((pool.note (.began call)).move call (.admitting pool.node))
    else some ((pool.note (.reached call)).move call .calling)
  | .admitting snapshot =>
    match b.transition.admitCall snapshot b.config.toBreakerConfig pool.clock with
    | .error e => some (pool.move call (.refused (admitFailed (paths call) e)))
    | .ok (node, admission) => some (pool.move call (.admitted snapshot pool.clock node admission))
  | .admitted _ _ node admission =>
    match admission with
    | .rejectOpen => some ((pool.write call node).move call (.refused (circuitOpen (paths call))))
    | .proceed => some (((pool.write call node).note (.reached call)).move call .calling)
  | .answered result =>
    if b.config.enabled then some (pool.move call (.recording result pool.node))
    else some (pool.move call (.returned result))
  | .recording result snapshot =>
    match b.transition.record snapshot b.config.toBreakerConfig (classifyResult result)
        pool.clock with
    | .error _ => some (pool.move call (.returned result))
    | .ok node => some (pool.move call (.recorded result snapshot pool.clock node))
  | .recorded result _ _ node =>
    some ((pool.writeRecord call node).move call (.returned result))
  | .calling | .returned _ | .refused _ => none

/-- One step of the whole. -/
def step (pool : Pool) : Act → Option Pool
  | .tick nanos => some { pool with clock := pool.clock + nanos }
  | .next call => if pool.dropped call then none else b.advance paths pool call (pool.phase call)
  | .answer call result =>
    if pool.dropped call then none
    else if pool.phase call = .calling then
      some ((pool.note (.ended call (classifyResult result))).move call (.answered result))
    else none
  | .drop call =>
    some { pool with dropped := fun k => if k = call then true else pool.dropped k }

/-- All that the next step of a call can do, the breaker enabled or not. -/
inductive Advances (pool : Pool) (call : Nat) : Pool → Prop
  | begins : b.config.enabled = true → pool.phase call = .entering →
      Advances pool call ((pool.note (.began call)).move call (.admitting pool.node))
  | passes : b.config.enabled = false → pool.phase call = .entering →
      Advances pool call ((pool.note (.reached call)).move call .calling)
  | admitFails {snapshot : BreakerNode} {e : String} : pool.phase call = .admitting snapshot →
      b.transition.admitCall snapshot b.config.toBreakerConfig pool.clock = .error e →
      Advances pool call (pool.move call (.refused (admitFailed (paths call) e)))
  | admits {snapshot node : BreakerNode} {admission : Admission} :
      pool.phase call = .admitting snapshot →
      b.transition.admitCall snapshot b.config.toBreakerConfig pool.clock = .ok (node, admission) →
      Advances pool call (pool.move call (.admitted snapshot pool.clock node admission))
  | refuses {now : Nat} {snapshot node : BreakerNode} :
      pool.phase call = .admitted snapshot now node .rejectOpen →
      Advances pool call
        ((pool.write call node).move call (.refused (circuitOpen (paths call))))
  | proceeds {now : Nat} {snapshot node : BreakerNode} :
      pool.phase call = .admitted snapshot now node .proceed →
      Advances pool call (((pool.write call node).note (.reached call)).move call .calling)
  | looks {result : Except CallError Unit} : b.config.enabled = true →
      pool.phase call = .answered result →
      Advances pool call (pool.move call (.recording result pool.node))
  | leaves {result : Except CallError Unit} : b.config.enabled = false →
      pool.phase call = .answered result → Advances pool call (pool.move call (.returned result))
  | recordFails {result : Except CallError Unit} {snapshot : BreakerNode} {e : String} :
      pool.phase call = .recording result snapshot →
      b.transition.record snapshot b.config.toBreakerConfig (classifyResult result) pool.clock =
        .error e →
      Advances pool call (pool.move call (.returned result))
  | records {result : Except CallError Unit} {snapshot node : BreakerNode} :
      pool.phase call = .recording result snapshot →
      b.transition.record snapshot b.config.toBreakerConfig (classifyResult result) pool.clock =
        .ok node →
      Advances pool call (pool.move call (.recorded result snapshot pool.clock node))
  | returns {now : Nat} {result : Except CallError Unit} {snapshot node : BreakerNode} :
      pool.phase call = .recorded result snapshot now node →
      Advances pool call ((pool.writeRecord call node).move call (.returned result))

/-- All that a step can do to a breaker that is enabled. -/
inductive Moves (pool : Pool) : Act → Pool → Prop
  | tick (nanos : Nat) : Moves pool (.tick nanos) { pool with clock := pool.clock + nanos }
  | drop (call : Nat) : Moves pool (.drop call)
      { pool with dropped := fun k => if k = call then true else pool.dropped k }
  | begin {call : Nat} : pool.phase call = .entering →
      Moves pool (.next call) ((pool.note (.began call)).move call (.admitting pool.node))
  | admitFails {call : Nat} {snapshot : BreakerNode} {e : String} :
      pool.phase call = .admitting snapshot →
      b.transition.admitCall snapshot b.config.toBreakerConfig pool.clock = .error e →
      Moves pool (.next call) (pool.move call (.refused (admitFailed (paths call) e)))
  | admits {call : Nat} {snapshot node : BreakerNode} {admission : Admission} :
      pool.phase call = .admitting snapshot →
      b.transition.admitCall snapshot b.config.toBreakerConfig pool.clock = .ok (node, admission) →
      Moves pool (.next call) (pool.move call (.admitted snapshot pool.clock node admission))
  | refuses {call now : Nat} {snapshot node : BreakerNode} :
      pool.phase call = .admitted snapshot now node .rejectOpen →
      Moves pool (.next call)
        ((pool.write call node).move call (.refused (circuitOpen (paths call))))
  | proceeds {call now : Nat} {snapshot node : BreakerNode} :
      pool.phase call = .admitted snapshot now node .proceed →
      Moves pool (.next call) (((pool.write call node).note (.reached call)).move call .calling)
  | answers {call : Nat} {result : Except CallError Unit} : pool.phase call = .calling →
      Moves pool (.answer call result)
        ((pool.note (.ended call (classifyResult result))).move call (.answered result))
  | looks {call : Nat} {result : Except CallError Unit} : pool.phase call = .answered result →
      Moves pool (.next call) (pool.move call (.recording result pool.node))
  | recordFails {call : Nat} {result : Except CallError Unit} {snapshot : BreakerNode}
      {e : String} : pool.phase call = .recording result snapshot →
      b.transition.record snapshot b.config.toBreakerConfig (classifyResult result) pool.clock =
        .error e →
      Moves pool (.next call) (pool.move call (.returned result))
  | records {call : Nat} {result : Except CallError Unit} {snapshot node : BreakerNode} :
      pool.phase call = .recording result snapshot →
      b.transition.record snapshot b.config.toBreakerConfig (classifyResult result) pool.clock =
        .ok node →
      Moves pool (.next call) (pool.move call (.recorded result snapshot pool.clock node))
  | returns {call now : Nat} {result : Except CallError Unit} {snapshot node : BreakerNode} :
      pool.phase call = .recorded result snapshot now node →
      Moves pool (.next call)
        ((pool.writeRecord call node).move call (.returned result))

variable {b paths}

theorem advances_of_advance {pool pool' : Pool} {call : Nat}
    (h : b.advance paths pool call (pool.phase call) = some pool') :
    Advances b paths pool call pool' := by
  cases stands : pool.phase call with
  | entering =>
    simp only [stands, advance] at h
    split at h
    · next enabled => cases h; exact .begins enabled stands
    · next off => cases h; exact .passes (Bool.eq_false_iff.mpr off) stands
  | admitting snapshot =>
    simp only [stands, advance] at h
    split at h
    · next e failed => cases h; exact .admitFails stands failed
    · next node admission asked => cases h; exact .admits stands asked
  | admitted snapshot now node admission =>
    cases admission with
    | rejectOpen =>
      simp only [stands, advance, Option.some.injEq] at h
      exact h ▸ .refuses stands
    | proceed =>
      simp only [stands, advance, Option.some.injEq] at h
      exact h ▸ .proceeds stands
  | calling => simp only [stands, advance, reduceCtorEq] at h
  | answered result =>
    simp only [stands, advance] at h
    split at h
    · next enabled => cases h; exact .looks enabled stands
    · next off => cases h; exact .leaves (Bool.eq_false_iff.mpr off) stands
  | recording result snapshot =>
    simp only [stands, advance] at h
    split at h
    · next e failed => cases h; exact .recordFails stands failed
    · next node asked => cases h; exact .records stands asked
  | recorded result snapshot now node =>
    simp only [stands, advance, Option.some.injEq] at h
    exact h ▸ .returns stands
  | returned result => simp only [stands, advance, reduceCtorEq] at h
  | refused error => simp only [stands, advance, reduceCtorEq] at h

theorem moves_of_advances (enabled : b.config.enabled = true) {pool pool' : Pool} {call : Nat}
    (advances : Advances b paths pool call pool') : Moves b paths pool (.next call) pool' := by
  cases advances with
  | begins _ stands => exact .begin stands
  | passes off stands => exact absurd enabled (Bool.eq_false_iff.mp off)
  | admitFails stands failed => exact .admitFails stands failed
  | admits stands asked => exact .admits stands asked
  | refuses stands => exact .refuses stands
  | proceeds stands => exact .proceeds stands
  | looks _ stands => exact .looks stands
  | leaves off stands => exact absurd enabled (Bool.eq_false_iff.mp off)
  | recordFails stands failed => exact .recordFails stands failed
  | records stands asked => exact .records stands asked
  | returns stands => exact .returns stands

theorem step_cases (enabled : b.config.enabled = true) {pool pool' : Pool} {act : Act}
    (h : b.step paths pool act = some pool') : Moves b paths pool act pool' := by
  cases act with
  | tick nanos => exact Option.some.inj h ▸ .tick nanos
  | drop call => exact Option.some.inj h ▸ .drop call
  | next call =>
    simp only [step] at h
    split at h
    · cases h
    · exact moves_of_advances enabled (advances_of_advance h)
  | answer call result =>
    simp only [step] at h
    split at h
    · cases h
    · split at h
      · next called => exact Option.some.inj h ▸ .answers called
      · cases h

/-! ## One call with no other in between -/

/-- The phase a call is in once its `admit` is done. -/
def afterAdmit : Except CallError Unit → Phase
  | .ok () => .calling
  | .error e => .refused e

/-- The next step of a call from the phase `phase`. -/
theorem next_of_phase {pool pool' : Pool} {call : Nat} {phase : Phase}
    (alive : pool.dropped call = false) (stands : pool.phase call = phase)
    (moved : b.advance paths pool call phase = some pool') :
    b.step paths pool (.next call) = some pool' := by
  simp only [step, alive, stands, moved, Bool.false_eq_true, if_false]

/-- The steps of an `admit` with no step of another call in between are `admit` as
a whole. -/
theorem uninterrupted_admit (paths : Nat → String) (enabled : b.config.enabled = true)
    {pool : Pool} {call : Nat}
    (alive : pool.dropped call = false) (stands : pool.phase call = .entering) :
    ∃ acts pool', Runs.run (b.step paths) pool acts = some pool' ∧
      pool'.node = (b.admitCall (paths call) pool.node pool.clock).1 ∧
      pool'.phase call = afterAdmit (b.admitCall (paths call) pool.node pool.clock).2 ∧
      pool'.dropped call = false := by
  let copied := (pool.note (.began call)).move call (.admitting pool.node)
  have began : b.step paths pool (.next call) = some copied :=
    next_of_phase alive stands (by simp only [advance, enabled, if_true, copied])
  have at_copied : copied.phase call = .admitting pool.node := Pool.move_phase_self _ _ _
  unfold admitCall
  -- The state machine is asked about the copy, which is still the node.
  cases asked : b.transition.admitCall pool.node b.config.toBreakerConfig pool.clock with
  | error e =>
    have failed : b.step paths copied (.next call) =
        some (copied.move call (.refused (admitFailed (paths call) e))) :=
      next_of_phase alive at_copied (by
        simp only [advance, copied, Pool.move_clock, Pool.note_clock, asked])
    exact ⟨[.next call, .next call], _,
      Runs.run_cons.mpr ⟨_, began, Runs.run_cons.mpr ⟨_, failed, rfl⟩⟩,
      rfl, Pool.move_phase_self _ _ _, alive⟩
  | ok answer =>
    obtain ⟨node, admission⟩ := answer
    let decided := copied.move call (.admitted pool.node pool.clock node admission)
    have answered : b.step paths copied (.next call) = some decided :=
      next_of_phase alive at_copied (by
        simp only [advance, copied, decided, Pool.move_clock, Pool.note_clock, asked])
    have at_decided : decided.phase call = .admitted pool.node pool.clock node admission :=
      Pool.move_phase_self _ _ _
    -- Let through or refused, the node is written back.
    cases admission
    all_goals
      exact ⟨[.next call, .next call, .next call], _,
        Runs.run_cons.mpr ⟨_, began, Runs.run_cons.mpr ⟨_, answered,
          Runs.run_cons.mpr ⟨_, next_of_phase alive at_decided rfl, rfl⟩⟩⟩,
        Pool.write_node _ _ _, Pool.move_phase_self _ _ _,
        (congrFun (Pool.write_dropped _ _ _) call).trans alive⟩

/-- The steps of a `record` with no step of another call in between are `record`
as a whole. -/
theorem uninterrupted_record (paths : Nat → String) (enabled : b.config.enabled = true)
    {pool : Pool} {call : Nat}
    {result : Except CallError Unit} (alive : pool.dropped call = false)
    (stands : pool.phase call = .answered result) :
    ∃ acts pool', Runs.run (b.step paths) pool acts = some pool' ∧
      pool'.node = b.record (classifyResult result) pool.node pool.clock ∧
      pool'.phase call = .returned result := by
  let copied := pool.move call (.recording result pool.node)
  have looked : b.step paths pool (.next call) = some copied :=
    next_of_phase alive stands (by simp only [advance, enabled, if_true, copied])
  have at_copied : copied.phase call = .recording result pool.node := Pool.move_phase_self _ _ _
  unfold record
  cases asked : b.transition.record pool.node b.config.toBreakerConfig (classifyResult result)
      pool.clock with
  | error e =>
    have failed : b.step paths copied (.next call) = some (copied.move call (.returned result)) :=
      next_of_phase alive at_copied (by simp only [advance, copied, Pool.move_clock, asked])
    exact ⟨[.next call, .next call], _,
      Runs.run_cons.mpr ⟨_, looked, Runs.run_cons.mpr ⟨_, failed, rfl⟩⟩,
      rfl, Pool.move_phase_self _ _ _⟩
  | ok node =>
    let decided := copied.move call (.recorded result pool.node pool.clock node)
    have answered : b.step paths copied (.next call) = some decided :=
      next_of_phase alive at_copied (by
        simp only [advance, copied, decided, Pool.move_clock, asked])
    have at_decided : decided.phase call = .recorded result pool.node pool.clock node :=
      Pool.move_phase_self _ _ _
    refine ⟨[.next call, .next call, .next call], _,
      Runs.run_cons.mpr ⟨_, looked, Runs.run_cons.mpr ⟨_, answered,
        Runs.run_cons.mpr ⟨_, next_of_phase alive at_decided rfl, rfl⟩⟩⟩,
      ?_, Pool.move_phase_self _ _ _⟩
    exact Pool.writeRecord_node _ _ _

/-- A call whose steps no other call interrupts leaves the node as `guard` does. -/
theorem uninterrupted_call (paths : Nat → String) (enabled : b.config.enabled = true)
    {pool : Pool} {call : Nat}
    (alive : pool.dropped call = false) (stands : pool.phase call = .entering)
    (result : Except CallError Unit) :
    ∃ acts pool' clock, Runs.run (b.step paths) pool acts = some pool' ∧
      pool'.node = (b.guard (paths call) clock result pool.node).node := by
  obtain ⟨admitting, mid, toMid, midNode, midPhase, midAlive⟩ :=
    uninterrupted_admit paths enabled alive stands
  cases admitted : b.admitCall (paths call) pool.node pool.clock with
  | mk node answer =>
    rw [admitted] at midNode midPhase
    cases answer with
    | error e =>
      -- A refused call asks nobody and records nothing.
      refine ⟨admitting, mid, ⟨pool.clock, pool.clock⟩, toMid, ?_⟩
      rw [guard_of_refused enabled admitted]
      exact midNode
    | ok u =>
      have calls : b.step paths mid (.answer call result) =
          some ((mid.note (.ended call (classifyResult result))).move call (.answered result)) := by
        simp only [step, midAlive, Bool.false_eq_true, if_false]
        exact if_pos midPhase
      have isAnswered : ((mid.note (.ended call (classifyResult result))).move call
          (.answered result)).phase call = .answered result := Pool.move_phase_self _ _ _
      have stillAlive : ((mid.note (.ended call (classifyResult result))).move call
          (.answered result)).dropped call = false := midAlive
      obtain ⟨recording, last, toLast, lastNode, _⟩ :=
        uninterrupted_record paths enabled stillAlive isAnswered
      refine ⟨admitting ++ .answer call result :: recording, last, ⟨pool.clock, mid.clock⟩, ?_, ?_⟩
      · rw [Runs.run_append, toMid]
        exact Runs.run_cons.mpr ⟨_, calls, toLast⟩
      · have same : mid.node = node := midNode
        rw [guard_of_proceed enabled admitted, lastNode]
        show b.record _ mid.node mid.clock = b.record _ node mid.clock
        rw [same]

end GrpcBreakerClient

end GrpcEgress
