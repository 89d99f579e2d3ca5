import GrpcEgress.Breaker.Calls
import GrpcEgress.Lib.SerialHistory

/-!
# When the bookkeeping of a breaker is linearizable

A breaker is linearizable when its node, and what every call was told, are those
of some serial run in which each `admit` and each `record` is one whole operation, at
the clock reading that the call took for it in the concurrent run (`asked`). Copy and
write-back are two acquisitions of the mutex, so another call may write in between, and
the write-back then undoes it: `two_failures_count_once` is a run in which two calls fail
and one failure is counted.

`WritesCurrent` says that this does not happen: when an answer of the state
machine is written back, the state machine would answer the same about the node as
it is then. It is so when the node is still the copy (`fresh_run_current`).
`current_run_linearizable` is that every run of such steps is linearizable. The
serial run is built along the concurrent one: an operation that writes joins it at
its end, and one whose state machine fails joins it where its copy was taken.
-/

namespace GrpcEgress

open StdFailureClassifier SerialHistory

/-- An `admit` or a `record` that runs as a whole, at a clock reading. -/
inductive WholeOp where
  | admitCall (call : Nat) (now : Nat)
  | record (call : Nat) (outcome : Outcome) (now : Nat)
deriving DecidableEq

namespace WholeOp

/-- The call whose operation it is. -/
def call : WholeOp → Nat
  | .admitCall call _ => call
  | .record call _ _ => call

/-- The operation is one of `k`. -/
def isOf (k : Nat) (op : WholeOp) : Bool := op.call == k

/-- It records a success. -/
def isSuccess : WholeOp → Bool
  | .record _ .success _ => true
  | _ => false

/-- It records a failure. -/
def isFailure : WholeOp → Bool
  | .record _ .failure _ => true
  | _ => false

end WholeOp

namespace GrpcBreakerClient

variable (b : GrpcBreakerClient) (paths : Nat → String)

/-- What a whole operation does to the node, and what it tells its call. -/
def exec : BreakerNode → WholeOp → BreakerNode × Except CallError Unit
  | node, .admitCall call now => b.admitCall (paths call) node now
  | node, .record _ outcome now => (b.record outcome node now, .ok ())

/-- The operations of a call in a serial run, each with what it told the call. -/
abbrev own (order : List WholeOp) (call : Nat) : List (WholeOp × Except CallError Unit) :=
  ownHistory (WholeOp.isOf call) (b.exec paths) .start order

/-- The clock reading that a step takes to ask the state machine, with its call. -/
def asked (pool : Pool) : Act → List (Nat × Nat)
  | .next call =>
    match pool.phase call with
    | .admitting _ | .recording _ _ => [(call, pool.clock)]
    | _ => []
  | _ => []

/-- The readings of a run, in order, with their calls. -/
abbrev readings (acts : List Act) : List (Nat × Nat) :=
  Runs.collect (b.step paths) asked .start acts

/-- The readings of one call: that of its `admit` and that of its `record`. -/
def readingsOf (call : Nat) (readings : List (Nat × Nat)) : List Nat :=
  (readings.filter fun reading => reading.1 == call).map Prod.snd

/-- The operations of a call in a serial run account for the phase it is in, each at the
reading that the call took for it. An operation whose answer is not written back yet may
have run or not. -/
def Explains (call : Nat) (readings : List Nat) (done : List (WholeOp × Except CallError Unit)) :
    Phase → Prop
  | .entering | .admitting _ => readings = [] ∧ done = []
  | .admitted _ _ _ _ => ∃ now, readings = [now] ∧
      (done = [] ∨ ∃ told, done = [(.admitCall call now, told)])
  | .calling | .answered _ | .recording _ _ => ∃ now, readings = [now] ∧
      done = [(.admitCall call now, .ok ())]
  | .recorded result _ _ _ => ∃ now later, readings = [now, later] ∧
      (done = [(.admitCall call now, .ok ())] ∨ done =
        [(.admitCall call now, .ok ()), (.record call (outcomeOf result) later, .ok ())])
  | .returned result => ∃ now later, readings = [now, later] ∧ done =
      [(.admitCall call now, .ok ()), (.record call (outcomeOf result) later, .ok ())]
  | .refused e => ∃ now, readings = [now] ∧ done = [(.admitCall call now, .error e)]

/-- Some serial run ends in the node of the breaker and explains every call, at the
readings that the calls took. -/
def Linearizable (pool : Pool) (readings : List (Nat × Nat)) : Prop :=
  ∃ order, replay (b.exec paths) .start order = pool.node ∧
    ∀ call, Explains call (readingsOf call readings) (b.own paths order call) (pool.phase call)

/-- What a step writes back is what the state machine answers about the node as it
is before the step. -/
def WritesCurrent (pool : Pool) : Act → Prop
  | .next call =>
    match pool.phase call with
    | .admitted _ now node admission =>
      b.transition.admitCall pool.node b.config.toBreakerConfig now = .ok (node, admission)
    | .recorded result _ now node =>
      b.transition.record pool.node b.config.toBreakerConfig (classifyResult result) now = .ok node
    | _ => True
  | _ => True

/-! ## The serial run behind a concurrent one -/

/-- Where a call stands in the serial run that is being built. A copy that has not
been answered yet is a state of that run. -/
def StandsAt (order : List WholeOp) (call : Nat) (readings : List Nat) : Phase → Prop
  | .entering => readings = [] ∧ b.own paths order call = []
  | .admitting snapshot => readings = [] ∧ b.own paths order call = [] ∧
      Seen (WholeOp.isOf call) (b.exec paths) .start order snapshot
  | .admitted _ now _ _ => readings = [now] ∧ b.own paths order call = []
  | .calling | .answered _ => ∃ now, readings = [now] ∧
      b.own paths order call = [(.admitCall call now, .ok ())]
  | .recording _ snapshot => ∃ now, readings = [now] ∧
      b.own paths order call = [(.admitCall call now, .ok ())] ∧
      Seen (WholeOp.isOf call) (b.exec paths) .start order snapshot
  | .recorded _ _ later _ => ∃ now, readings = [now, later] ∧
      b.own paths order call = [(.admitCall call now, .ok ())]
  | .returned result => ∃ now later, readings = [now, later] ∧ b.own paths order call =
      [(.admitCall call now, .ok ()), (.record call (classifyResult result) later, .ok ())]
  | .refused e => ∃ now, readings = [now] ∧
      b.own paths order call = [(.admitCall call now, .error e)]

/-- `order` is the serial run of a concurrent one that has come to `pool` and taken the
readings. -/
structure Serializes (order : List WholeOp) (readings : List (Nat × Nat)) (pool : Pool) :
    Prop where
  node : replay (b.exec paths) .start order = pool.node
  calls : ∀ call, b.StandsAt paths order call (readingsOf call readings) (pool.phase call)

/-- What a step writes back was computed from the node as it is before the step. -/
def WritesFresh (pool : Pool) : Act → Prop
  | .next call =>
    match pool.phase call with
    | .admitted snapshot _ _ _ => snapshot = pool.node
    | .recorded _ snapshot _ _ => snapshot = pool.node
    | _ => True
  | _ => True

/-- What a call has yet to write is what the state machine answered about its
copy. -/
def AnsweredAbout : Phase → Prop
  | .admitted snapshot now node admission =>
    b.transition.admitCall snapshot b.config.toBreakerConfig now = .ok (node, admission)
  | .recorded result snapshot now node =>
    b.transition.record snapshot b.config.toBreakerConfig (classifyResult result) now = .ok node
  | _ => True

instance (pool : Pool) (act : Act) : Decidable (b.WritesCurrent pool act) := by
  unfold WritesCurrent
  split
  · split <;> infer_instance
  · infer_instance

variable {b paths}

theorem readingsOf_append (call : Nat) (before after : List (Nat × Nat)) :
    readingsOf call (before ++ after) = readingsOf call before ++ readingsOf call after := by
  simp only [readingsOf, List.filter_append, List.map_append]

theorem readingsOf_self (call now : Nat) : readingsOf call [(call, now)] = [now] := by
  simp only [readingsOf, List.filter_cons, beq_self_eq_true, if_true, List.filter_nil,
    List.map_cons, List.map_nil]

theorem readingsOf_other {k call : Nat} (other : k ≠ call) (now : Nat) :
    readingsOf k [(call, now)] = [] := by
  simp only [readingsOf, List.filter_cons, beq_eq_false_iff_ne.mpr other.symm, Bool.false_eq_true,
    if_false, List.filter_nil, List.map_nil]

theorem StandsAt.explains {order : List WholeOp} {call : Nat} {readings : List Nat} {phase : Phase}
    (stands : b.StandsAt paths order call readings phase) :
    Explains call readings (b.own paths order call) phase := by
  cases phase with
  | entering => exact stands
  | admitting snapshot => exact ⟨stands.1, stands.2.1⟩
  | admitted snapshot now node admission => exact ⟨now, stands.1, .inl stands.2⟩
  | calling => exact stands
  | answered result => exact stands
  | recording result snapshot =>
    obtain ⟨now, read, done, _⟩ := stands
    exact ⟨now, read, done⟩
  | recorded result snapshot later node =>
    obtain ⟨now, read, done⟩ := stands
    exact ⟨now, later, read, .inl done⟩
  | returned result =>
    obtain ⟨now, later, read, done⟩ := stands
    rw [classifyResult_eq_outcomeOf] at done
    exact ⟨now, later, read, done⟩
  | refused e => exact stands

/-- An operation of another call that joins the serial run leaves a call where it
stands, if the call's own operations and the states it has seen are kept. -/
theorem StandsAt.of_same {order order' : List WholeOp} {call : Nat} {readings : List Nat}
    (same : b.own paths order' call = b.own paths order call)
    (seen : ∀ snapshot, Seen (WholeOp.isOf call) (b.exec paths) .start order snapshot →
      Seen (WholeOp.isOf call) (b.exec paths) .start order' snapshot)
    {phase : Phase} (stands : b.StandsAt paths order call readings phase) :
    b.StandsAt paths order' call readings phase := by
  cases phase with
  | admitting snapshot =>
    obtain ⟨unread, none, copied⟩ := stands
    exact ⟨unread, same.trans none, seen snapshot copied⟩
  | recording result snapshot =>
    obtain ⟨now, read, done, copied⟩ := stands
    exact ⟨now, read, same.trans done, seen snapshot copied⟩
  | _ => simpa only [StandsAt, same] using stands

theorem StandsAt.concat {order : List WholeOp} {call : Nat} {readings : List Nat} {phase : Phase}
    (stands : b.StandsAt paths order call readings phase) {op : WholeOp}
    (other : op.isOf call = false) : b.StandsAt paths (order ++ [op]) call readings phase :=
  stands.of_same (ownHistory_concat_other other) fun _ seen => seen.concat other

theorem StandsAt.insert {before after : List WholeOp} {call : Nat} {readings : List Nat}
    {phase : Phase} (stands : b.StandsAt paths (before ++ after) call readings phase) {op : WholeOp}
    (other : op.isOf call = false)
    (idle : (b.exec paths (replay (b.exec paths) .start before) op).1 =
      replay (b.exec paths) .start before) :
    b.StandsAt paths (before ++ op :: after) call readings phase :=
  stands.of_same (ownHistory_insert_other other idle) fun _ seen => seen.insert other idle

/-- A step of `call` that writes nothing and asks nothing. -/
theorem Serializes.quiet {order : List WholeOp} {readings : List (Nat × Nat)} {pool mid : Pool}
    {call : Nat} {dest : Phase} (inv : b.Serializes paths order readings pool)
    (node : mid.node = pool.node) (phases : mid.phase = pool.phase)
    (mine : b.StandsAt paths order call (readingsOf call readings) dest) :
    b.Serializes paths order readings (mid.move call dest) where
  node := inv.node.trans node.symm
  calls := Pool.forall_move phases mine fun k _ => inv.calls k

/-- A step of `call` that takes a reading, and writes nothing. -/
theorem Serializes.reads {order : List WholeOp} {readings : List (Nat × Nat)} {pool mid : Pool}
    {call now : Nat} {dest : Phase} (inv : b.Serializes paths order readings pool)
    (node : mid.node = pool.node) (phases : mid.phase = pool.phase)
    (mine : b.StandsAt paths order call (readingsOf call readings ++ [now]) dest) :
    b.Serializes paths order (readings ++ [(call, now)]) (mid.move call dest) where
  node := inv.node.trans node.symm
  calls := by
    refine Pool.forall_move
      (P := fun k => b.StandsAt paths order k (readingsOf k (readings ++ [(call, now)])))
      phases ?_ fun k other => ?_
    · rw [readingsOf_append, readingsOf_self]
      exact mine
    · rw [readingsOf_append, readingsOf_other other, List.append_nil]
      exact inv.calls k

/-- A step of `call` with which its operation `op` takes effect on the node. -/
theorem Serializes.concat {order : List WholeOp} {readings : List (Nat × Nat)} {pool mid : Pool}
    {call : Nat} {dest : Phase} {op : WholeOp} (inv : b.Serializes paths order readings pool)
    (foreign : ∀ k, k ≠ call → op.isOf k = false)
    (node : mid.node = (b.exec paths pool.node op).1) (phases : mid.phase = pool.phase)
    (mine : b.StandsAt paths (order ++ [op]) call (readingsOf call readings) dest) :
    b.Serializes paths (order ++ [op]) readings (mid.move call dest) where
  node := by
    rw [replay_concat, inv.node, Pool.move_node, node]
  calls := Pool.forall_move phases mine fun k other => (inv.calls k).concat (foreign k other)

/-- An operation `op` of `call` that changes nothing where the copy was taken may have run
there. -/
theorem Serializes.insert {before after : List WholeOp} {readings : List (Nat × Nat)}
    {pool mid : Pool} {call now : Nat} {dest : Phase} {op : WholeOp}
    (inv : b.Serializes paths (before ++ after) readings pool)
    (foreign : ∀ k, k ≠ call → op.isOf k = false)
    (idle : (b.exec paths (replay (b.exec paths) .start before) op).1 =
      replay (b.exec paths) .start before)
    (node : mid.node = pool.node) (phases : mid.phase = pool.phase)
    (mine : b.StandsAt paths (before ++ op :: after) call (readingsOf call readings ++ [now])
      dest) :
    b.Serializes paths (before ++ op :: after) (readings ++ [(call, now)])
      (mid.move call dest) where
  node := by
    rw [replay_insert idle, inv.node, Pool.move_node, node]
  calls := by
    refine Pool.forall_move (P := fun k =>
      b.StandsAt paths (before ++ op :: after) k (readingsOf k (readings ++ [(call, now)])))
      phases ?_ fun k other => ?_
    · rw [readingsOf_append, readingsOf_self]
      exact mine
    · rw [readingsOf_append, readingsOf_other other, List.append_nil]
      exact (inv.calls k).insert (foreign k other) idle

theorem own_concat {order : List WholeOp} {call : Nat} {op : WholeOp}
    (mine : op.isOf call = true) : b.own paths (order ++ [op]) call =
      b.own paths order call ++ [(op, (b.exec paths (replay (b.exec paths) .start order) op).2)] :=
  ownHistory_concat_own mine

theorem own_insert {before after : List WholeOp} {call : Nat} {op : WholeOp}
    (mine : op.isOf call = true) (rest : ∀ x ∈ after, x.isOf call = false) :
    b.own paths (before ++ op :: after) call = b.own paths (before ++ after) call ++
      [(op, (b.exec paths (replay (b.exec paths) .start before) op).2)] :=
  ownHistory_insert_own mine rest

theorem admit_foreign (call now : Nat) :
    ∀ k, k ≠ call → (WholeOp.admitCall call now).isOf k = false :=
  fun _ other => beq_eq_false_iff_ne.mpr (Ne.symm other)

theorem record_foreign (call : Nat) (outcome : Outcome) (now : Nat) :
    ∀ k, k ≠ call → (WholeOp.record call outcome now).isOf k = false :=
  fun _ other => beq_eq_false_iff_ne.mpr (Ne.symm other)

theorem admit_mine (call now : Nat) : (WholeOp.admitCall call now).isOf call = true :=
  beq_self_eq_true call

theorem record_mine (call : Nat) (outcome : Outcome) (now : Nat) :
    (WholeOp.record call outcome now).isOf call = true := beq_self_eq_true call

/-- A step that writes only what is current carries the serial run on. -/
theorem serializes_step {order : List WholeOp} {readings : List (Nat × Nat)} {pool pool' : Pool}
    {act : Act} (inv : b.Serializes paths order readings pool) (current : b.WritesCurrent pool act)
    (moves : b.Moves paths pool act pool') :
    ∃ order', b.Serializes paths order' (readings ++ asked pool act) pool' := by
  cases moves with
  | tick nanos =>
    simp only [asked, List.append_nil]
    exact ⟨order, inv.node, inv.calls⟩
  | drop call =>
    simp only [asked, List.append_nil]
    exact ⟨order, inv.node, inv.calls⟩
  | @begin call stands =>
    have mine := inv.calls call
    rw [stands] at mine
    simp only [asked, stands, List.append_nil]
    obtain ⟨unread, none⟩ := mine
    refine ⟨order, inv.quiet rfl rfl ⟨unread, none, ?_⟩⟩
    rw [← inv.node]
    exact seen_now order
  | @admitFails call snapshot e stands failed =>
    -- Nothing will be written: the operation joins the serial run where its copy was taken.
    have mine := inv.calls call
    rw [stands] at mine
    simp only [asked, stands]
    obtain ⟨unread, none, before, after, rfl, copied, rest⟩ := mine
    have told : b.exec paths (replay (b.exec paths) .start before) (.admitCall call pool.clock) =
        (replay (b.exec paths) .start before, .error (admitFailed (paths call) e)) := by
      rw [copied]
      simp only [exec, admitCall, failed]
    refine ⟨_, inv.insert (admit_foreign call pool.clock) (congrArg Prod.fst told) rfl rfl
      ⟨pool.clock, ?_, ?_⟩⟩
    · rw [unread]
      rfl
    · rw [own_insert (admit_mine _ _) rest, none, told]
      rfl
  | @admits call snapshot node admission stands asks =>
    have mine := inv.calls call
    rw [stands] at mine
    simp only [asked, stands]
    obtain ⟨unread, none, -⟩ := mine
    refine ⟨order, inv.reads rfl rfl ⟨?_, none⟩⟩
    rw [unread]
    rfl
  | @refuses call now snapshot node stands =>
    -- The write-back is current, so the operation as a whole does the same to the node now.
    have mine := inv.calls call
    rw [stands] at mine
    simp only [WritesCurrent, stands] at current
    simp only [asked, stands, List.append_nil]
    obtain ⟨read, none⟩ := mine
    have told : b.exec paths pool.node (.admitCall call now) =
        (node, .error (circuitOpen (paths call))) := by
      simp only [exec, admitCall, current, verdict]
    refine ⟨_, inv.concat (admit_foreign call now) ?_ (Pool.write_phase _ _ _) ⟨now, read, ?_⟩⟩
    · rw [told]
      exact Pool.write_node _ _ _
    · rw [own_concat (admit_mine _ _), none, inv.node, told]
      rfl
  | @proceeds call now snapshot node stands =>
    have mine := inv.calls call
    rw [stands] at mine
    simp only [WritesCurrent, stands] at current
    simp only [asked, stands, List.append_nil]
    obtain ⟨read, none⟩ := mine
    have told : b.exec paths pool.node (.admitCall call now) = (node, .ok ()) := by
      simp only [exec, admitCall, current, verdict]
    refine ⟨_, inv.concat (admit_foreign call now) ?_ (Pool.write_phase _ _ _) ⟨now, read, ?_⟩⟩
    · rw [told]
      exact Pool.write_node _ _ _
    · rw [own_concat (admit_mine _ _), none, inv.node, told]
      rfl
  | @answers call result stands =>
    have mine := inv.calls call
    rw [stands] at mine
    simp only [asked, List.append_nil]
    exact ⟨order, inv.quiet rfl rfl mine⟩
  | @looks call result stands =>
    have mine := inv.calls call
    rw [stands] at mine
    simp only [asked, stands, List.append_nil]
    obtain ⟨now, read, done⟩ := mine
    refine ⟨order, inv.quiet rfl rfl ⟨now, read, done, ?_⟩⟩
    rw [← inv.node]
    exact seen_now order
  | @recordFails call result snapshot e stands failed =>
    have mine := inv.calls call
    rw [stands] at mine
    simp only [asked, stands]
    obtain ⟨now, read, done, before, after, rfl, copied, rest⟩ := mine
    have idle : (b.exec paths (replay (b.exec paths) .start before)
        (.record call (classifyResult result) pool.clock)).1 =
          replay (b.exec paths) .start before := by
      rw [copied]
      simp only [exec, record, failed]
    refine ⟨_, inv.insert (record_foreign call (classifyResult result) pool.clock) idle rfl rfl
      ⟨now, pool.clock, ?_, ?_⟩⟩
    · rw [read]
      rfl
    · rw [own_insert (record_mine _ _ _) rest, done]
      rfl
  | @records call result snapshot node stands asks =>
    have mine := inv.calls call
    rw [stands] at mine
    simp only [asked, stands]
    obtain ⟨now, read, done, -⟩ := mine
    refine ⟨order, inv.reads rfl rfl ⟨now, ?_, done⟩⟩
    rw [read]
    rfl
  | @returns call later result snapshot node stands =>
    have mine := inv.calls call
    rw [stands] at mine
    simp only [WritesCurrent, stands] at current
    simp only [asked, stands, List.append_nil]
    obtain ⟨now, read, done⟩ := mine
    have effect : (b.exec paths pool.node (.record call (classifyResult result) later)).1 =
        node := by
      simp only [exec, record, current]
    refine ⟨_, inv.concat (record_foreign call (classifyResult result) later) ?_
      (Pool.writeRecord_phase _ _ _) ⟨now, later, read, ?_⟩⟩
    · rw [effect]
      exact Pool.writeRecord_node _ _ _
    · rw [own_concat (record_mine _ _ _), done]
      rfl

/-- A run whose write-backs are all current ends in a linearizable state, whatever
the state machine, the calls and the order of their steps. -/
theorem current_run_linearizable (enabled : b.config.enabled = true) {acts : List Act}
    {pool : Pool} (current : Runs.AllSteps (b.step paths) b.WritesCurrent .start acts)
    (ran : Runs.run (b.step paths) .start acts = some pool) :
    b.Linearizable paths pool (b.readings paths acts) := by
  have start : ∃ order, b.Serializes paths order [] Pool.start := ⟨[], rfl, fun _ => ⟨rfl, rfl⟩⟩
  obtain ⟨order, node, calls⟩ := Runs.run_collected_of
    (fun readings pool => ∃ order, b.Serializes paths order readings pool)
    (fun _ _ _ _ ⟨_, inv⟩ writes stepped => serializes_step inv writes (step_cases enabled stepped))
    start current ran
  exact ⟨order, node, fun call => (calls call).explains⟩

/-- Every answer that is still to be written is about the copy of its call. -/
theorem answeredAbout_step {pool pool' : Pool} {act : Act}
    (inv : ∀ call, b.AnsweredAbout (pool.phase call)) (moves : b.Moves paths pool act pool') :
    ∀ call, b.AnsweredAbout (pool'.phase call) := by
  have move : ∀ {old : Pool} {call : Nat} {dest : Phase}, old.phase = pool.phase →
      b.AnsweredAbout dest → ∀ k, b.AnsweredAbout ((old.move call dest).phase k) := by
    intro old call dest same mine
    exact Pool.forall_move (P := fun _ phase => b.AnsweredAbout phase) same mine
      fun k _ => inv k
  cases moves with
  | tick nanos => exact inv
  | drop call => exact inv
  | begin stands => exact move rfl trivial
  | admitFails stands failed => exact move rfl trivial
  | admits stands asked => exact move rfl asked
  | refuses stands => exact move (Pool.write_phase _ _ _) trivial
  | proceeds stands => exact move (Pool.write_phase _ _ _) trivial
  | answers stands => exact move rfl trivial
  | looks stands => exact move rfl trivial
  | recordFails stands failed => exact move rfl trivial
  | records stands asked => exact move rfl asked
  | returns stands => exact move (Pool.writeRecord_phase _ _ _) trivial

/-- A fresh write-back is current. -/
theorem WritesFresh.current {pool : Pool} {act : Act}
    (inv : ∀ call, b.AnsweredAbout (pool.phase call)) (fresh : WritesFresh pool act) :
    b.WritesCurrent pool act := by
  cases act with
  | next call =>
    have about := inv call
    simp only [WritesFresh, WritesCurrent] at fresh ⊢
    cases stands : pool.phase call with
    | admitted snapshot now node admission =>
      simp only [stands] at about fresh ⊢
      exact fresh ▸ about
    | recorded result snapshot now node =>
      simp only [stands] at about fresh ⊢
      exact fresh ▸ about
    | _ => trivial
  | _ => trivial

/-- Where no call writes between the copy and the write-back of another one, every
write-back is current. -/
theorem fresh_run_current (enabled : b.config.enabled = true) {acts : List Act}
    (fresh : Runs.AllSteps (b.step paths) WritesFresh .start acts) :
    Runs.AllSteps (b.step paths) b.WritesCurrent .start acts := by
  have start : ∀ call, b.AnsweredAbout (Pool.start.phase call) := fun _ => trivial
  exact fresh.imp_of_invariant (fun pool => ∀ call, b.AnsweredAbout (pool.phase call))
    (fun _ _ _ inv stepped => answeredAbout_step inv (step_cases enabled stepped))
    (fun _ _ inv writes => writes.current inv) start

/-! ## A failure that is lost -/

/-- Failures recorded one after another on a closed circuit are all counted, as
long as they stay below the threshold. -/
theorem failures_add_up (b : GrpcBreakerClient) (paths : Nat → String)
    (documented : b.transition.Documented) {order : List WholeOp}
    {node : BreakerNode} (closed : node.state = .closed)
    (noSuccess : ∀ op ∈ order, op.isSuccess = false)
    (below : node.consecutiveFailures + order.countP WholeOp.isFailure <
      b.config.failureThreshold.toNat) :
    (replay (b.exec paths) node order).consecutiveFailures =
      node.consecutiveFailures + order.countP WholeOp.isFailure := by
  induction order generalizing node with
  | nil => rfl
  | cons op order ih =>
    have later : ∀ x ∈ order, x.isSuccess = false :=
      fun x member => noSuccess x (List.mem_cons_of_mem _ member)
    cases op with
    | admitCall call now =>
      have same : (b.exec paths node (.admitCall call now)).1 = node := by
        simp only [exec, admitCall, documented.admit_closed node _ now closed]
      show (replay (b.exec paths) (b.exec paths node (.admitCall call now)).1
        order).consecutiveFailures = _
      rw [same]
      exact ih closed later below
    | record call outcome now =>
      cases outcome with
      | success => cases noSuccess _ List.mem_cons_self
      | failure =>
        rw [List.countP_cons_of_pos rfl] at below ⊢
        obtain ⟨node', recorded, moved⟩ := documented.record_closed_failure node
          b.config.toBreakerConfig now closed
        -- Below the threshold the failure is counted and the circuit stays closed.
        have room : node.consecutiveFailures + 1 <
            b.config.toBreakerConfig.failureThreshold.toNat :=
          Nat.lt_of_le_of_lt (by omega) below
        rw [if_pos room] at moved
        have effect : (b.exec paths node (.record call .failure now)).1 = node' := by
          simp only [exec, record, recorded]
        show (replay (b.exec paths) (b.exec paths node (.record call .failure now)).1
          order).consecutiveFailures = _
        rw [effect, ih moved.1 later (by omega), moved.2]
        omega

theorem own_filter (b : GrpcBreakerClient) (paths : Nat → String) (order : List WholeOp)
    (call : Nat) :
    (b.own paths order call).map Prod.fst = order.filter (WholeOp.isOf call) :=
  ownHistory_ops order

end GrpcBreakerClient

/-- The default policy on the three-state machine. -/
def defaultBreaker : GrpcBreakerClient := ⟨.default, .threeState⟩

/-- The failure of a peer that says it is unavailable. -/
def peerDown : Except CallError Unit := .error (.status "/test.Peer/Echo" .unavailable "" .empty)

/-- Two calls are let through and fail, and each takes its copy before the other
writes. -/
def bothFail : List Act :=
  [.next 0, .next 0, .next 0, .next 1, .next 1, .next 1, .answer 0 peerDown, .answer 1 peerDown,
    .next 0, .next 1, .next 0, .next 1, .next 0, .next 1]

/-- After `bothFail` one failure is counted, and no serial run explains that. -/
theorem two_failures_count_once :
    ∃ pool, Runs.run (defaultBreaker.step fun _ => "/test.Peer/Echo") .start bothFail = some pool ∧
      pool.node = ⟨.closed, 1, 0⟩ ∧
      ¬ defaultBreaker.Linearizable (fun _ => "/test.Peer/Echo") pool
        (defaultBreaker.readings (fun _ => "/test.Peer/Echo") bothFail) := by
  refine ⟨_, rfl, rfl, ?_⟩
  rintro ⟨order, node, calls⟩
  obtain ⟨_, _, -, zero⟩ := calls 0
  obtain ⟨_, _, -, one⟩ := calls 1
  have ofZero := congrArg (List.map Prod.fst) zero
  have ofOne := congrArg (List.map Prod.fst) one
  rw [GrpcBreakerClient.own_filter] at ofZero ofOne
  have ofOthers : ∀ k, order.filter (WholeOp.isOf (k + 2)) = [] := fun k => by
    rw [← defaultBreaker.own_filter fun _ => "/test.Peer/Echo"]
    exact congrArg (List.map Prod.fst) (calls (k + 2)).2
  have inFilter : ∀ op ∈ order, op ∈ order.filter (WholeOp.isOf op.call) :=
    fun op member => List.mem_filter.mpr ⟨member, beq_self_eq_true op.call⟩
  -- No other call has begun, so the serial run holds operations of these two only.
  have owner : ∀ op ∈ order, op.call = 0 ∨ op.call = 1 := fun op member => by
    have own := inFilter op member
    match owned : op.call with
    | 0 => exact .inl rfl
    | 1 => exact .inr rfl
    | k + 2 =>
      rw [owned, ofOthers k] at own
      cases own
  have noSuccess : ∀ op ∈ order, op.isSuccess = false := fun op member => by
    have own := inFilter op member
    rcases owner op member with owned | owned
    · rw [owned, ofZero] at own
      rcases List.mem_cons.mp own with rfl | own
      · rfl
      · cases List.mem_singleton.mp own
        rfl
    · rw [owned, ofOne] at own
      rcases List.mem_cons.mp own with rfl | own
      · rfl
      · cases List.mem_singleton.mp own
        rfl
  -- Each of them has recorded one failure.
  have failures : order.countP WholeOp.isFailure = 2 := by
    have rest : order.filter (fun op => !op.isOf 0) = order.filter (WholeOp.isOf 1) :=
      List.filter_congr fun op member => by
        rcases owner op member with owned | owned <;> simp only [WholeOp.isOf, owned] <;> rfl
    rw [List.countP_eq_countP_filter_add order _ (WholeOp.isOf 0), rest, ofZero, ofOne]
    rfl
  have counted := defaultBreaker.failures_add_up (fun _ => "/test.Peer/Echo")
    BreakerTransition.threeState_documented (rfl : BreakerNode.start.state = .closed) noSuccess
    (by rw [failures]; decide)
  rw [node, failures] at counted
  exact absurd counted (by decide)

/-- Two calls are let through with copies taken before either writes, at readings of their
own, and fail. The first one records its failure while the second is still to do so. A third
call is given up with its copy in hand. -/
def bothCounted : List Act :=
  [.next 0, .next 1, .next 0, .tick 5, .next 1, .next 1, .next 0, .answer 0 peerDown, .next 2,
    .next 0, .answer 1 peerDown, .tick 5, .next 0, .next 0, .next 1, .tick 5, .next 1, .drop 2,
    .next 1]

/-- Its write-backs are current, though one is of a copy taken before another write. -/
theorem both_counted_linearizable :
    ∃ pool, Runs.run (defaultBreaker.step fun _ => "/test.Peer/Echo") .start bothCounted =
        some pool ∧ pool.node = ⟨.closed, 2, 0⟩ ∧
      defaultBreaker.readings (fun _ => "/test.Peer/Echo") bothCounted =
        [(0, 0), (1, 5), (0, 10), (1, 15)] ∧
      defaultBreaker.Linearizable (fun _ => "/test.Peer/Echo") pool
        (defaultBreaker.readings (fun _ => "/test.Peer/Echo") bothCounted) :=
  have current : Runs.AllSteps (defaultBreaker.step fun _ => "/test.Peer/Echo")
      defaultBreaker.WritesCurrent .start bothCounted := by decide
  ⟨_, rfl, rfl, rfl, GrpcBreakerClient.current_run_linearizable rfl current rfl⟩

end GrpcEgress
