import GrpcEgress.Breaker.OpenCircuit

/-!
# What an observer of a breaker may conclude

`BreakerObservable::state` reads the state of the node under the mutex, at any moment of a run
with any number of calls in flight. What it reads can be told from the log (`Legible`), so two
readings say what was noted between them.

1. `legible_step`: a step of the breaker keeps log and state together;
2. `observed_recovery`: a circuit that is read open and later closed was probed in between.
-/

namespace GrpcEgress

open StdFailureClassifier

namespace GrpcBreakerClient

/-- `state` of the observer. -/
def observe (pool : Pool) : BreakerState := pool.node.state

section

variable {b : GrpcBreakerClient} {paths : Nat → String}

/-- The log tells which state the circuit is in: it was opened last, and nothing but calls that
began or ended was noted since; or it was closed since it was last opened, if it ever was. -/
structure Legible (pool : Pool) : Prop where
  wasOpened : ∀ since, pool.node.state = .opened since → ∃ after before time call,
    pool.log = after ++ ⟨time, .opened call since⟩ :: before ∧
    ∀ note ∈ after, note.mark.isPlain = true
  shut : pool.node.state = .closed → (∀ note ∈ pool.log, note.mark.isOpened = false) ∨
    ∃ closer, .closed closer ∈ marks (sinceOpened pool.log)
  /-- A call that the wrapped client has, or is done with, has reached it. -/
  calling : ∀ k, pool.phase k = .calling → .reached k ∈ marks pool.log
  ended : ∀ k outcome, .ended k outcome ∈ marks pool.log → .reached k ∈ marks pool.log

theorem legible_start : Legible .start where
  wasOpened := nofun
  shut _ := .inl nofun
  calling := nofun
  ended := nofun

/-- A step that leaves the circuit as it is, and notes a call that begins or ends or nothing. -/
theorem Legible.plain {pool pool' : Pool} (legible : Legible pool) {notes : List Note}
    (log : pool'.log = notes ++ pool.log) (plain : ∀ note ∈ notes, note.mark.isPlain = true)
    (state : pool'.node.state = pool.node.state)
    (calling : ∀ k, pool'.phase k = .calling → pool.phase k = .calling)
    (ended : ∀ k outcome, .ended k outcome ∈ marks notes → .reached k ∈ marks pool.log) :
    Legible pool' where
  wasOpened since opened := by
    obtain ⟨after, before, time, call, split, quiet⟩ :=
      legible.wasOpened since (state.symm.trans opened)
    refine ⟨notes ++ after, before, time, call, ?_, List.forall_mem_append.mpr ⟨plain, quiet⟩⟩
    rw [log, split, List.append_assoc]
  shut closed := by
    rw [log]
    rcases legible.shut (state.symm.trans closed) with never | ⟨closer, noted⟩
    · exact .inl (List.forall_mem_append.mpr
        ⟨fun note member => plain_not_opened (plain note member), never⟩)
    · refine .inr ⟨closer, ?_⟩
      rw [sinceOpened_append _ plain, marks_append]
      exact List.mem_append_right _ noted
  calling k is := by
    rw [log, marks_append]
    exact List.mem_append_right _ (legible.calling k (calling k is))
  ended k outcome member := by
    rw [log, marks_append] at member ⊢
    rcases List.mem_append.mp member with new | old
    · exact List.mem_append_right _ (ended k outcome new)
    · exact List.mem_append_right _ (legible.ended k outcome old)

/-- A step that leaves the circuit and the log as they are. -/
theorem Legible.quiet {pool pool' : Pool} (legible : Legible pool) (log : pool'.log = pool.log)
    (state : pool'.node.state = pool.node.state)
    (calling : ∀ k, pool'.phase k = .calling → pool.phase k = .calling) : Legible pool' :=
  have same : pool'.log = [] ++ pool.log := log
  legible.plain same nofun state calling nofun

/-- A call that moves on is with the wrapped client only if it goes there. -/
theorem calling_move {pool mid : Pool} {call : Nat} {dest : Phase} (same : mid.phase = pool.phase)
    (elsewhere : dest ≠ .calling) :
    ∀ k, (mid.move call dest).phase k = .calling → pool.phase k = .calling :=
  Pool.forall_move (P := fun k phase => phase = .calling → pool.phase k = .calling) same
    (fun is => absurd is elsewhere) fun _ _ => id

/-- A call moves on, and nothing else happens. -/
theorem Legible.moves {pool : Pool} (legible : Legible pool) {call : Nat} {dest : Phase}
    (elsewhere : dest ≠ .calling) : Legible (pool.move call dest) :=
  legible.quiet rfl rfl (calling_move rfl elsewhere)

/-- A step that notes something else: a call that reaches the wrapped client, or a circuit that
opens or closes. -/
theorem Legible.noted {pool pool' : Pool} (legible : Legible pool) {note : Note}
    (log : pool'.log = note :: pool.log)
    (wasOpened : ∀ since, pool'.node.state = .opened since → ∃ call, note.mark = .opened call since)
    (shut : pool'.node.state = .closed → note.mark.isOpened = false ∧
      (pool.node.state = .closed ∨ ∃ closer, note.mark = .closed closer))
    (calling : ∀ k, pool'.phase k = .calling → note.mark = .reached k ∨ pool.phase k = .calling)
    (unended : ∀ k outcome, note.mark ≠ .ended k outcome) : Legible pool' where
  wasOpened since opened := by
    obtain ⟨time, mark⟩ := note
    obtain ⟨call, rfl⟩ := wasOpened since opened
    exact ⟨[], pool.log, time, call, log, nofun⟩
  shut closed := by
    obtain ⟨plain, was | ⟨closer, closing⟩⟩ := shut closed
    · rw [log, sinceOpened_cons _ plain]
      rcases legible.shut was with never | ⟨closer, noted⟩
      · exact .inl (List.forall_mem_cons.mpr ⟨plain, never⟩)
      · exact .inr ⟨closer, List.mem_cons_of_mem _ noted⟩
    · refine .inr ⟨closer, ?_⟩
      rw [log, sinceOpened_cons _ plain, ← closing]
      exact List.mem_cons_self
  calling k is := by
    rw [log]
    rcases calling k is with reached | was
    · rw [← reached]
      exact List.mem_cons_self
    · exact List.mem_cons_of_mem _ (legible.calling k was)
  ended k outcome member := by
    rw [log] at member ⊢
    rcases List.mem_cons.mp member with new | old
    · exact absurd new.symm (unended k outcome)
    · exact List.mem_cons_of_mem _ (legible.ended k outcome old)

/-- A call reaches the wrapped client. -/
theorem legible_proceeds (documented : b.transition.Documented) {pool : Pool}
    (legible : Legible pool) {call now : Nat} {node : BreakerNode}
    (current : b.transition.admitCall pool.node b.config.toBreakerConfig now =
      .ok (node, .proceed)) :
    Legible (((pool.write call node).note (.reached call)).move call .calling) := by
  have calling : ∀ k, (((pool.write call node).note (.reached call)).move call .calling).phase k =
      .calling → Mark.reached call = .reached k ∨ pool.phase k = .calling := by
    refine Pool.forall_move (P := fun k phase => phase = .calling →
      Mark.reached call = .reached k ∨ pool.phase k = .calling) ?_ (fun _ => .inl rfl)
      fun _ _ => .inr
    rw [Pool.note_phase, Pool.write_phase]
  have written : (((pool.write call node).note (.reached call)).move call .calling).node = node :=
    Pool.write_node _ _ _
  have log : (pool.write call node).log = pool.log →
      (((pool.write call node).note (.reached call)).move call .calling).log =
        ⟨pool.clock, .reached call⟩ :: pool.log := by
    intro same
    rw [Pool.move_log, Pool.note_log, same, Pool.write_clock]
  rcases documented.admit_cases current with
    ⟨-, same, notOpen⟩ | ⟨is, -⟩ | ⟨-, since, was, -, is, -⟩
  · refine legible.noted (log (Pool.write_log_same call fun closed => same ▸ closed))
      (fun since opened => ?_) (fun closed => ?_) calling nofun
    · rw [written, same] at opened
      exact absurd opened (notOpen since)
    · rw [written, same] at closed
      exact ⟨rfl, .inl closed⟩
  · cases is
  · refine legible.noted (log (Pool.write_log_same call fun closed => ?_))
      (fun since opened => ?_) (fun closed => ?_) calling nofun
    · cases is.symm.trans closed
    · rw [written, is] at opened
      cases opened
    · rw [written, is] at closed
      cases closed

/-- A call is recorded. -/
theorem legible_returns (documented : b.transition.Documented) {pool : Pool}
    (legible : Legible pool) {call now : Nat} {result : Except CallError Unit} {node : BreakerNode}
    (current : b.transition.record pool.node b.config.toBreakerConfig (classifyResult result) now =
      .ok node) :
    Legible ((pool.writeRecord call node).move call (.returned result)) := by
  have calling := @calling_move pool (pool.writeRecord call node) call (.returned result)
    (Pool.writeRecord_phase _ _ _) nofun
  have written : ((pool.writeRecord call node).move call (.returned result)).node = node :=
    Pool.writeRecord_node _ _ _
  have opens : ∀ since, node.state = .opened since →
      Legible ((pool.writeRecord call node).move call (.returned result)) := by
    intro since is
    refine legible.noted (Pool.writeRecord_log_opened call is) (fun since' opened => ⟨call, ?_⟩)
      (fun closed => ?_) (fun k ne => .inr (calling k ne)) nofun
    · rw [written, is] at opened
      cases opened
      rfl
    · rw [written, is] at closed
      cases closed
  rcases documented.record_cases current with
    ⟨was, is⟩ | ⟨-, is⟩ | ⟨since, -, is⟩ | ⟨-, was, is, -⟩ | ⟨-, was, is, -⟩
  · refine legible.quiet (Pool.writeRecord_log_same call (fun since opened => ?_) fun _ => was)
      ?_ calling
    · cases is.symm.trans opened
    · rw [written, is, was]
  · exact opens now is
  · exact opens since is
  · refine legible.quiet (Pool.writeRecord_log_same call (fun since opened => ?_)
      fun closed => ?_) ?_ calling
    · cases is.symm.trans opened
    · cases is.symm.trans closed
    · rw [written, is, was]
  · refine legible.noted (Pool.writeRecord_log_closing call is fun closed => ?_)
      (fun since opened => ?_) (fun _ => ⟨rfl, .inr ⟨call, rfl⟩⟩)
      (fun k ne => .inr (calling k ne)) nofun
    · cases was.symm.trans closed
    · rw [written, is] at opened
      cases opened

/-- A step whose write-backs are current keeps log and state together. -/
theorem legible_step (documented : b.transition.Documented) {pool pool' : Pool} {act : Act}
    (legible : Legible pool) (current : b.WritesCurrent pool act)
    (moves : b.Moves paths pool act pool') : Legible pool' := by
  cases moves with
  | tick nanos => exact legible.quiet rfl rfl fun _ => id
  | drop call => exact legible.quiet rfl rfl fun _ => id
  | @begin call stands =>
    have log : ((pool.note (.began call)).move call (.admitting pool.node)).log =
      [⟨pool.clock, .began call⟩] ++ pool.log := rfl
    refine legible.plain log (List.forall_mem_singleton.mpr rfl) rfl
      (calling_move rfl fun is => by cases is) fun k outcome member => ?_
    cases List.mem_singleton.mp member
  | admitFails stands failed => exact legible.moves fun is => by cases is
  | admits stands asked => exact legible.moves fun is => by cases is
  | @refuses call now snapshot node stands =>
    simp only [WritesCurrent, stands] at current
    rcases documented.admit_cases current with ⟨is, -⟩ | ⟨-, since, was, is⟩ | ⟨is, -⟩
    · cases is
    · refine legible.quiet (Pool.write_log_same call fun closed => ?_) ?_
        (calling_move (Pool.write_phase _ _ _) fun is => by cases is)
      · cases is.symm.trans closed
      · rw [Pool.move_node, Pool.write_node, is, was]
    · cases is
  | @proceeds call now snapshot node stands =>
    simp only [WritesCurrent, stands] at current
    exact legible_proceeds documented legible current
  | @answers call result stands =>
    have log : ((pool.note (.ended call (classifyResult result))).move call
      (.answered result)).log =
        [⟨pool.clock, .ended call (classifyResult result)⟩] ++ pool.log := rfl
    refine legible.plain log (List.forall_mem_singleton.mpr rfl) rfl
      (calling_move rfl fun is => by cases is) fun k outcome member => ?_
    cases List.mem_singleton.mp member
    exact legible.calling call stands
  | looks stands => exact legible.moves fun is => by cases is
  | recordFails stands failed => exact legible.moves fun is => by cases is
  | records stands asked => exact legible.moves fun is => by cases is
  | @returns call now result snapshot node stands =>
    simp only [WritesCurrent, stands] at current
    exact legible_returns documented legible current

/-! ## Between two moments of a run -/

theorem suffix_write (pool : Pool) (call : Nat) (node : BreakerNode) :
    pool.log <:+ (pool.write call node).log := by
  unfold Pool.write
  split
  · exact List.suffix_cons _ _
  · exact List.suffix_refl _

theorem suffix_writeRecord (pool : Pool) (call : Nat) (node : BreakerNode) :
    pool.log <:+ (pool.writeRecord call node).log := by
  unfold Pool.writeRecord
  split
  · exact (suffix_write pool call node).trans (List.suffix_cons _ _)
  · exact suffix_write pool call node

/-- What was noted stays noted. -/
theorem suffix_of_moves {pool pool' : Pool} {act : Act} (moves : b.Moves paths pool act pool') :
    pool.log <:+ pool'.log := by
  cases moves with
  | tick | drop | admitFails | admits | looks | recordFails | records => exact List.suffix_refl _
  | begin | answers => exact List.suffix_cons _ _
  | refuses => exact suffix_write _ _ _
  | proceeds => exact (suffix_write _ _ _).trans (List.suffix_cons _ _)
  | returns => exact suffix_writeRecord _ _ _

/-- What every orderly run keeps. -/
theorem sound_legible_run (documented : b.transition.Documented)
    (enabled : b.config.enabled = true) {pool pool' : Pool} {acts : List Act}
    (inv : b.Sound pool ∧ Legible pool)
    (orderly : Runs.AllSteps (b.step paths) b.Orderly pool acts)
    (ran : Runs.run (b.step paths) pool acts = some pool') : b.Sound pool' ∧ Legible pool' := by
  refine Runs.run_invariant_of (fun pool => b.Sound pool ∧ Legible pool)
    (fun pool act pool' inv ok stepped => ?_) inv orderly ran
  have moves := step_cases enabled stepped
  exact ⟨sound_step documented inv.1 ok moves, legible_step documented inv.2 ok.1 moves⟩

/-- The log up to the last opening. -/
theorem exists_sinceOpened {log : List Note} {note : Note} (member : note ∈ log)
    (opened : note.mark.isOpened = true) :
    ∃ time call since before, log = sinceOpened log ++ ⟨time, .opened call since⟩ :: before := by
  induction log with
  | nil => cases member
  | cons first log ih =>
    cases isOpened : first.mark.isOpened with
    | true =>
      obtain ⟨time, mark⟩ := first
      cases mark with
      | opened call since =>
        exact ⟨time, call, since, log, by rw [sinceOpened_opened]; rfl⟩
      | began | reached | ended | closed => cases isOpened
    | false =>
      rcases List.mem_cons.mp member with rfl | below
      · rw [isOpened] at opened
        cases opened
      · obtain ⟨time, call, since, before, split⟩ := ih below
        refine ⟨time, call, since, before, ?_⟩
        rw [sinceOpened_cons _ isOpened, List.cons_append, ← split]

/-- Notes that are not among the plain ones behind an opening are newer than those. -/
theorem mem_notes {notes after before : List Note} {time call since : Nat} {note : Note}
    (quiet : ∀ note ∈ after, note.mark.isPlain = true)
    (member : note ∈ sinceOpened (notes ++ (after ++ ⟨time, .opened call since⟩ :: before))) :
    note ∈ notes ∨ note ∈ after ∧ note.mark.isPlain = true := by
  rw [← List.append_assoc] at member
  rcases List.mem_append.mp (mem_of_sinceOpened member) with new | old
  · exact .inl new
  · exact .inr ⟨old, quiet note old⟩

/-- Between a moment when the circuit is open and one when it is closed there were enough
probes. -/
theorem Legible.probed {s t : Pool} (sound : b.Sound t) (before : Legible s) (after : Legible t)
    {notes : List Note} (log : t.log = notes ++ s.log) {since : Nat}
    (opened : s.node.state = .opened since) (closed : t.node.state = .closed) :
    ∃ probes, b.EnoughProbes since notes probes := by
  obtain ⟨tail, early, time, call, split, quiet⟩ := before.wasOpened since opened
  have whole : t.log = (notes ++ tail) ++ ⟨time, .opened call since⟩ :: early := by
    rw [log, split, List.append_assoc]
  -- The circuit was opened, so it is closed now because a call closed it since.
  have there : (⟨time, .opened call since⟩ : Note) ∈ t.log := by
    rw [whole]
    exact List.mem_append_right _ List.mem_cons_self
  rcases after.shut closed with never | ⟨closer, noted⟩
  · cases never _ there
  obtain ⟨time', call', since', older, last⟩ := exists_sinceOpened there rfl
  obtain ⟨⟨time'', mark⟩, inSince, rfl⟩ := List.mem_map.mp noted
  obtain ⟨newer, mid, parts⟩ := List.append_of_mem inSince
  have closing : t.log = newer ++ ⟨time'', .closed closer⟩ ::
      (mid ++ ⟨time', .opened call' since'⟩ :: older) := by
    rw [parts, List.append_assoc, List.cons_append] at last
    exact last
  obtain ⟨⟨probes, distinct, enough, reached, succeeded⟩, -⟩ :=
    sound.probed newer mid older time' call' since' time'' closer closing
  have inMid : ∀ note ∈ mid, note ∈ notes ∨ note ∈ tail ∧ note.mark.isPlain = true := by
    intro note member
    refine @mem_notes notes tail early time call since note quiet ?_
    rw [← split, ← log, parts]
    exact List.mem_append_right _ (List.mem_cons_of_mem _ member)
  have late : ∀ k ∈ probes, ∃ t₀, since + b.coolDown ≤ t₀ ∧ ⟨t₀, .reached k⟩ ∈ notes := by
    intro k member
    obtain ⟨t₀, -, noted⟩ := reached k member
    rcases inMid _ noted with new | ⟨-, plain⟩
    · exact ⟨t₀, sound.shut _ early time call since whole k t₀ (List.mem_append_left _ new), new⟩
    · cases plain
  refine ⟨probes, distinct, enough, late, fun k member => ?_⟩
  obtain ⟨⟨t₁, mark⟩, noted, rfl⟩ := List.mem_map.mp (succeeded k member)
  rcases inMid _ noted with new | ⟨old, -⟩
  · exact List.mem_map.mpr ⟨_, new, rfl⟩
  · -- A probe that was over before would have reached the wrapped client twice.
    have finished : .ended k .success ∈ marks s.log := by
      rw [split]
      exact List.mem_map.mpr ⟨_, List.mem_append_left _ old, rfl⟩
    obtain ⟨t₀, -, again⟩ := late k member
    have first : 0 < (marks s.log).count (.reached k) :=
      List.count_pos_iff.mpr (before.ended k _ finished)
    have second : 0 < (marks notes).count (.reached k) :=
      List.count_pos_iff.mpr (List.mem_map.mpr ⟨_, again, rfl⟩)
    have once : (marks t.log).count (.reached k) ≤ 1 :=
      Nat.le_trans (sound.once k) (by split <;> decide)
    rw [log, marks_append, List.count_append] at once
    exact absurd (Nat.le_trans (Nat.add_le_add second first) once) (by decide)

end

end GrpcBreakerClient

open GrpcBreakerClient

/-- With the documented state machine, in every run whose write-backs are current and whose
records are on time: an observer who reads an open circuit, and at any later moment a closed
one, knows that in between enough distinct calls reached the wrapped client after the
cool-down and succeeded. -/
theorem observed_recovery (b : GrpcBreakerClient) (paths : Nat → String)
    (documented : b.transition.Documented) (enabled : b.config.enabled = true)
    (acts later : List Act) (s t : Pool)
    (orderly : Runs.AllSteps (b.step paths) b.Orderly .start (acts ++ later))
    (ran : Runs.run (b.step paths) .start acts = some s)
    (went : Runs.run (b.step paths) s later = some t) (since : Nat)
    (opened : observe s = .opened since) (closed : observe t = .closed) :
    ∃ notes probes, t.log = notes ++ s.log ∧ b.EnoughProbes since notes probes := by
  obtain ⟨first, second⟩ := orderly.of_append ran
  have before := sound_legible_run documented enabled ⟨sound_start, legible_start⟩ first ran
  have after := sound_legible_run documented enabled before second went
  obtain ⟨notes, log⟩ := Runs.run_invariant (fun t => s.log <:+ t.log)
    (fun _ _ _ grown stepped => grown.trans (suffix_of_moves (step_cases enabled stepped)))
    (List.suffix_refl s.log) went
  obtain ⟨probes, enough⟩ := before.2.probed after.1 after.2 log.symm opened closed
  exact ⟨notes, probes, log.symm, enough⟩

/-- `observed_recovery` for a circuit that one failure opens and one probe closes. -/
theorem observed_recovery_one :
    ∃ s t, Runs.run (oneFailureBreaker.step fun _ => "/test.Peer/Echo") .start
        (openedAndProbed.take 10) = some s ∧
      Runs.run (oneFailureBreaker.step fun _ => "/test.Peer/Echo") s
        (openedAndProbed.drop 10) = some t ∧
      observe s = .opened 0 ∧ observe t = .closed ∧
      ∃ notes probes, t.log = notes ++ s.log ∧ oneFailureBreaker.EnoughProbes 0 notes probes := by
  have orderly : Runs.AllSteps (oneFailureBreaker.step fun _ => "/test.Peer/Echo")
      oneFailureBreaker.Orderly .start (openedAndProbed.take 10 ++ openedAndProbed.drop 10) := by
    decide
  exact ⟨_, _, rfl, rfl, rfl, rfl, observed_recovery oneFailureBreaker
    (fun _ => "/test.Peer/Echo") BreakerTransition.threeState_documented rfl
    (openedAndProbed.take 10) (openedAndProbed.drop 10) _ _ orderly rfl rfl 0 rfl rfl⟩

end GrpcEgress
