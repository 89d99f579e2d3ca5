import GrpcEgress.Breaker.Linearization

/-!
# What an open circuit guarantees

`OpenMeansOpen` reads the log of a breaker with any number of calls in flight:
after a record has written an open circuit, no call that begins then reaches the
wrapped client before the cool-down has passed, and the circuit is closed again
only after enough probes, calls that were let through after the cool-down, have
succeeded.

Two things break it, one in each run of `open_circuit_broken`. A stale write-back
undoes the opening, and a call that was let through before the opening is counted
as a probe when it succeeds while the circuit is half-open. `RecordsOnTime` says
that the second does not happen. `open_means_open` is that every run with neither
has the guarantee, on the documented state machine.
-/

namespace GrpcEgress

open StdFailureClassifier

/-- A record wrote an open circuit. -/
def Mark.isOpened : Mark → Bool
  | .opened _ _ => true
  | _ => false

/-- The call is at the mutex or at the wrapped client. -/
def Mark.isPlain : Mark → Bool
  | .began _ | .ended _ _ => true
  | _ => false

/-- The marks of a log. -/
def marks (log : List Note) : List Mark := log.map Note.mark

/-- The part of a log since a record last wrote an open circuit. -/
def sinceOpened (log : List Note) : List Note := log.takeWhile fun note => !note.mark.isOpened

/-- The call has not reached the wrapped client, or never will. -/
def Phase.isEarly : Phase → Bool
  | .entering | .admitting _ | .admitted _ _ _ _ | .refused _ => true
  | _ => false

/-- The result of a call that has yet to be recorded. -/
def Phase.unrecorded : Phase → Option (Except CallError Unit)
  | .answered result | .recording result _ | .recorded result _ _ _ => some result
  | _ => none

/-- The call is over, and recorded if it is to be. -/
def Phase.isReturned : Phase → Bool
  | .returned _ => true
  | _ => false

namespace GrpcBreakerClient

variable (b : GrpcBreakerClient) (paths : Nat → String)

/-- The cool-down of the policy, in nanoseconds. -/
abbrev coolDown : Nat := b.config.toBreakerConfig.coolDown

/-- `probes` are enough probes for an opening at `since`: distinct calls that were
let through after the cool-down and have succeeded, all noted in `log`. -/
structure EnoughProbes (since : Nat) (log : List Note) (probes : List Nat) : Prop where
  distinct : probes.Nodup
  enough : b.config.halfOpenProbeCount.toNat ≤ probes.length
  reached : ∀ k ∈ probes, ∃ t, since + b.coolDown ≤ t ∧ ⟨t, .reached k⟩ ∈ log
  succeeded : ∀ k ∈ probes, .ended k .success ∈ marks log

/-- Open means open, and only probes close it. -/
structure OpenMeansOpen (log : List Note) : Prop where
  /-- No call that begins after an opening reaches the wrapped client before the
  cool-down has passed. -/
  shut : ∀ after before time call since, log = after ++ ⟨time, .opened call since⟩ :: before →
    ∀ k, .began k ∈ marks after → ∀ t, ⟨t, .reached k⟩ ∈ after → since + b.coolDown ≤ t
  /-- The circuit is closed again only after enough probes. -/
  probed : ∀ after mid before time call since time' closer,
    log = after ++ ⟨time', .closed closer⟩ :: (mid ++ ⟨time, .opened call since⟩ :: before) →
    ∃ probes, b.EnoughProbes since mid probes
  /-- A call that was let through before the opening does not close it. -/
  late : ∀ after mid before time call since time' closer,
    log = after ++ ⟨time', .closed closer⟩ :: (mid ++ ⟨time, .opened call since⟩ :: before) →
    .reached closer ∉ marks before

/-- In this phase of a call, a success that is recorded on a half-open circuit is that
of a call that was let through after the circuit last opened. -/
def OnTime (pool : Pool) (call : Nat) : Phase → Prop
  | .recorded result _ _ _ => pool.node.state = .halfOpen → classifyResult result = .success →
      .reached call ∈ marks (sinceOpened pool.log)
  | _ => True

/-- What a step records is on time. -/
def RecordsOnTime (pool : Pool) : Act → Prop
  | .next call => OnTime pool call (pool.phase call)
  | _ => True

/-! ## The invariant -/

/-- What holds of a breaker on the documented machine after every run whose
write-backs are current and whose records are on time. -/
structure Sound (pool : Pool) : Prop where
  asked : ∀ call snapshot now node admission,
    pool.phase call = .admitted snapshot now node admission → now ≤ pool.clock
  /-- A circuit that opened is still open, or its cool-down has passed. -/
  cooled : ∀ time call since, ⟨time, .opened call since⟩ ∈ pool.log →
    since + b.coolDown ≤ pool.clock ∨ pool.node.state = .opened since
  /-- A call reaches the wrapped client after the cool-down of every opening before. -/
  shut : ∀ after before time call since,
    pool.log = after ++ ⟨time, .opened call since⟩ :: before →
    ∀ k t, ⟨t, .reached k⟩ ∈ after → since + b.coolDown ≤ t
  once : ∀ k, (marks pool.log).count (.reached k) ≤ if (pool.phase k).isEarly then 0 else 1
  ended : ∀ k result, (pool.phase k).unrecorded = some result →
    .reached k ∈ marks (sinceOpened pool.log) →
    .ended k (classifyResult result) ∈ marks (sinceOpened pool.log)
  /-- The successes counted on a half-open circuit are those of distinct calls since
  it opened, all of them over. -/
  counted : pool.node.state = .halfOpen → ∃ probes : List Nat, probes.Nodup ∧
    probes.length = pool.node.consecutiveSuccesses ∧ ∀ k ∈ probes,
      (pool.phase k).isReturned = true ∧ .reached k ∈ marks (sinceOpened pool.log) ∧
      .ended k .success ∈ marks (sinceOpened pool.log)
  probed : ∀ after mid before time call since time' closer,
    pool.log = after ++ ⟨time', .closed closer⟩ :: (mid ++ ⟨time, .opened call since⟩ :: before) →
    (∃ probes, b.EnoughProbes since mid probes) ∧ .reached closer ∉ marks before

variable {b paths}

theorem Sound.openMeansOpen {pool : Pool} (inv : b.Sound pool) : b.OpenMeansOpen pool.log where
  shut after before time call since split k _ := inv.shut after before time call since split k
  probed after mid before time call since time' closer split :=
    (inv.probed after mid before time call since time' closer split).1
  late after mid before time call since time' closer split :=
    (inv.probed after mid before time call since time' closer split).2

theorem sound_start : b.Sound .start where
  asked := nofun
  cooled := nofun
  shut after before _ _ _ split := by
    cases after <;> cases split
  once _ := Nat.zero_le _
  ended := nofun
  counted := nofun
  probed after _ _ _ _ _ _ _ split := by
    cases after <;> cases split

theorem sinceOpened_cons {note : Note} (log : List Note) (plain : note.mark.isOpened = false) :
    sinceOpened (note :: log) = note :: sinceOpened log :=
  List.takeWhile_cons_of_pos (by rw [plain]; rfl)

theorem sinceOpened_opened (time call since : Nat) (log : List Note) :
    sinceOpened (⟨time, .opened call since⟩ :: log) = [] :=
  List.takeWhile_cons_of_neg (by simp [Mark.isOpened])

/-- What is noted since the last opening is noted after each opening. -/
theorem mem_of_sinceOpened {mid before : List Note} {time call since : Nat} {note : Note}
    (h : note ∈ sinceOpened (mid ++ ⟨time, .opened call since⟩ :: before)) : note ∈ mid := by
  induction mid with
  | nil =>
    rw [List.nil_append, sinceOpened_opened] at h
    cases h
  | cons first mid ih =>
    cases isOpened : first.mark.isOpened with
    | true =>
      rw [List.cons_append, sinceOpened, List.takeWhile_cons_of_neg (by simp [isOpened])] at h
      cases h
    | false =>
      rw [List.cons_append, sinceOpened_cons _ isOpened] at h
      rcases List.mem_cons.mp h with rfl | later
      · exact List.mem_cons_self
      · exact List.mem_cons_of_mem _ (ih later)

theorem plain_not_opened {note : Note} (plain : note.mark.isPlain = true) :
    note.mark.isOpened = false := by
  cases mark : note.mark with
  | opened call since => rw [mark] at plain; cases plain
  | _ => rfl

theorem sinceOpened_append {notes : List Note} (log : List Note)
    (plain : ∀ note ∈ notes, note.mark.isPlain = true) :
    sinceOpened (notes ++ log) = notes ++ sinceOpened log := by
  induction notes with
  | nil => rfl
  | cons first notes ih =>
    rw [List.cons_append, sinceOpened_cons _ (plain_not_opened (plain _ List.mem_cons_self)),
      ih fun note member => plain note (List.mem_cons_of_mem _ member)]
    rfl

/-- A note that is not among the newest ones lies in the log they were added to. -/
theorem split_below {notes log after before : List Note} {note : Note} (above : note ∉ notes)
    (split : notes ++ log = after ++ note :: before) :
    ∃ rest, after = notes ++ rest ∧ log = rest ++ note :: before := by
  rcases List.append_eq_append_iff.mp split with ⟨rest, rfl, below⟩ | ⟨rest, rfl, below⟩
  · exact ⟨rest, rfl, below⟩
  · cases rest with
    | nil => exact ⟨[], (List.append_nil _).symm.trans (List.append_nil _).symm, below.symm⟩
    | cons first rest =>
      cases below
      exact absurd (List.mem_append_right _ List.mem_cons_self) above

/-- What no step does: bring a call back to where it has not reached the wrapped
client, or away from its end. -/
structure Onward (pool pool' : Pool) : Prop where
  clock : pool.clock ≤ pool'.clock
  asked : ∀ call snapshot now node admission,
    pool'.phase call = .admitted snapshot now node admission → now ≤ pool'.clock
  early : ∀ k, (pool'.phase k).isEarly = true → (pool.phase k).isEarly = true
  returned : ∀ k, (pool.phase k).isReturned = true → (pool'.phase k).isReturned = true

theorem Onward.move {pool old : Pool} (inv : b.Sound pool) {call : Nat} {dest : Phase}
    (phases : old.phase = pool.phase) (clock : old.clock = pool.clock)
    (asked : ∀ snapshot now node admission, dest = .admitted snapshot now node admission →
      now ≤ pool.clock)
    (early : dest.isEarly = true → (pool.phase call).isEarly = true)
    (going : (pool.phase call).isReturned = false) : Onward pool (old.move call dest) := by
  refine ⟨Nat.le_of_eq clock.symm, fun k => ?_, fun k => ?_, fun k => ?_⟩
  all_goals
    by_cases here : k = call
    · rw [here, Pool.move_phase_self]
      first
        | exact fun _ _ _ _ is => clock ▸ asked _ _ _ _ is
        | exact early
        | exact fun ended => absurd ended (by rw [going]; exact Bool.false_ne_true)
    · rw [Pool.move_phase_other _ _ _ here, phases]
      first
        | exact fun _ _ _ _ is => clock ▸ inv.asked k _ _ _ _ is
        | exact id

/-- How often a call may have reached the wrapped client never goes down. -/
theorem Onward.once {pool pool' : Pool} (onward : Onward pool pool') (k : Nat) :
    (if (pool.phase k).isEarly then 0 else 1) ≤ if (pool'.phase k).isEarly then 0 else 1 := by
  cases early : (pool'.phase k).isEarly with
  | true =>
    have before := onward.early k early
    simp only [before, if_true, Nat.le_refl]
  | false => split <;> simp

theorem onward_of_moves {pool pool' : Pool} {act : Act} (inv : b.Sound pool)
    (moves : b.Moves paths pool act pool') : Onward pool pool' := by
  cases moves with
  | tick nanos =>
    exact ⟨Nat.le_add_right _ _,
      fun k _ _ _ _ is => Nat.le_add_right_of_le (inv.asked k _ _ _ _ is), fun _ => id, fun _ => id⟩
  | drop call => exact ⟨Nat.le_refl _, inv.asked, fun _ => id, fun _ => id⟩
  | begin stands =>
    exact .move inv rfl rfl nofun (fun _ => by rw [stands]; rfl) (by rw [stands]; rfl)
  | admitFails stands failed =>
    exact .move inv rfl rfl nofun (fun _ => by rw [stands]; rfl) (by rw [stands]; rfl)
  | admits stands asked =>
    exact .move inv rfl rfl (fun _ _ _ _ is => by cases is; exact Nat.le_refl _)
      (fun _ => by rw [stands]; rfl) (by rw [stands]; rfl)
  | refuses stands =>
    exact .move inv (Pool.write_phase _ _ _) (Pool.write_clock _ _ _) nofun
      (fun _ => by rw [stands]; rfl) (by rw [stands]; rfl)
  | proceeds stands =>
    exact .move inv (Pool.write_phase _ _ _) (Pool.write_clock _ _ _) nofun nofun
      (by rw [stands]; rfl)
  | answers stands => exact .move inv rfl rfl nofun nofun (by rw [stands]; rfl)
  | looks stands => exact .move inv rfl rfl nofun nofun (by rw [stands]; rfl)
  | recordFails stands failed => exact .move inv rfl rfl nofun nofun (by rw [stands]; rfl)
  | records stands asked => exact .move inv rfl rfl nofun nofun (by rw [stands]; rfl)
  | returns stands =>
    exact .move inv (Pool.writeRecord_phase _ _ _) (Pool.writeRecord_clock _ _ _) nofun nofun
      (by rw [stands]; rfl)

/-! ## The invariant, one kind of step at a time -/

theorem marks_append (notes log : List Note) : marks (notes ++ log) = marks notes ++ marks log :=
  List.map_append

theorem count_reached_plain {notes : List Note} (plain : ∀ note ∈ notes, note.mark.isPlain = true)
    (k : Nat) : (marks notes).count (.reached k) = 0 := by
  refine List.count_eq_zero.mpr fun member => ?_
  obtain ⟨note, inNotes, mark⟩ := List.mem_map.mp member
  have is := plain note inNotes
  rw [mark] at is
  cases is

/-- A step that leaves the circuit as it is and notes nothing but a call that begins
or ends. -/
theorem Sound.plain {pool pool' : Pool} (inv : b.Sound pool) (onward : Onward pool pool')
    {notes : List Note} (log : pool'.log = notes ++ pool.log)
    (plain : ∀ note ∈ notes, note.mark.isPlain = true)
    (state : pool'.node.state = pool.node.state)
    (successes : pool.node.state = .halfOpen →
      pool'.node.consecutiveSuccesses = pool.node.consecutiveSuccesses)
    (ended : ∀ k result, (pool'.phase k).unrecorded = some result →
      (pool.phase k).unrecorded = some result ∨ .ended k (classifyResult result) ∈ marks notes) :
    b.Sound pool' := by
  have opened_above : ∀ time call since, ⟨time, .opened call since⟩ ∉ notes :=
    fun _ _ _ member => nomatch plain _ member
  have closed_above : ∀ time call, ⟨time, .closed call⟩ ∉ notes :=
    fun _ _ member => nomatch plain _ member
  have reached_above : ∀ time k, ⟨time, .reached k⟩ ∉ notes :=
    fun _ _ member => nomatch plain _ member
  -- Plain notes open nothing, so they only add to what is noted since the last opening.
  have since_eq : marks (sinceOpened pool'.log) = marks notes ++ marks (sinceOpened pool.log) := by
    rw [log, sinceOpened_append _ plain, marks_append]
  have reached_below : ∀ k, .reached k ∈ marks (sinceOpened pool'.log) →
      .reached k ∈ marks (sinceOpened pool.log) := by
    intro k member
    rw [since_eq] at member
    rcases List.mem_append.mp member with above | below
    · obtain ⟨⟨time, mark⟩, inNotes, rfl⟩ := List.mem_map.mp above
      exact absurd inNotes (reached_above time k)
    · exact below
  refine ⟨onward.asked, ?_, ?_, ?_, ?_, ?_, ?_⟩
  · intro time call since member
    rw [log] at member
    rcases List.mem_append.mp member with above | below
    · exact absurd above (opened_above _ _ _)
    · rcases inv.cooled time call since below with cool | still
      · exact .inl (Nat.le_trans cool onward.clock)
      · exact .inr (state.trans still)
  · intro after before time call since split k t member
    rw [log] at split
    obtain ⟨rest, rfl, tail⟩ := split_below (opened_above _ _ _) split
    rcases List.mem_append.mp member with above | below
    · exact absurd above (reached_above _ _)
    · exact inv.shut rest before time call since tail k t below
  · intro k
    rw [log, marks_append, List.count_append, count_reached_plain plain, Nat.zero_add]
    exact Nat.le_trans (inv.once k) (onward.once k)
  · intro k result is member
    have below := reached_below k member
    rw [since_eq]
    rcases ended k result is with before | above
    · exact List.mem_append_right _ (inv.ended k result before below)
    · exact List.mem_append_left _ above
  · intro half
    have was : pool.node.state = .halfOpen := state.symm.trans half
    obtain ⟨probes, distinct, length, each⟩ := inv.counted was
    refine ⟨probes, distinct, length.trans (successes was).symm, fun k member => ?_⟩
    obtain ⟨ended, reached, succeeded⟩ := each k member
    rw [since_eq]
    exact ⟨onward.returned k ended, List.mem_append_right _ reached,
      List.mem_append_right _ succeeded⟩
  · intro after mid before time call since time' closer split
    rw [log] at split
    obtain ⟨rest, rfl, tail⟩ := split_below (closed_above _ _) split
    exact inv.probed rest mid before time call since time' closer tail

/-- A step that leaves the circuit and the log as they are. -/
theorem Sound.quiet {pool pool' : Pool} (inv : b.Sound pool) (onward : Onward pool pool')
    (log : pool'.log = pool.log) (state : pool'.node.state = pool.node.state)
    (successes : pool.node.state = .halfOpen →
      pool'.node.consecutiveSuccesses = pool.node.consecutiveSuccesses)
    (unrecorded : ∀ k result, (pool'.phase k).unrecorded = some result →
      (pool.phase k).unrecorded = some result) : b.Sound pool' :=
  have same : pool'.log = [] ++ pool.log := log
  inv.plain onward same nofun state successes fun k result is => .inl (unrecorded k result is)

/-- A call that moves on has no result it did not have. -/
theorem unrecorded_move {pool old : Pool} {call : Nat} {dest : Phase}
    (phases : old.phase = pool.phase)
    (mine : ∀ result, dest.unrecorded = some result →
      (pool.phase call).unrecorded = some result) :
    ∀ k result, ((old.move call dest).phase k).unrecorded = some result →
      (pool.phase k).unrecorded = some result :=
  Pool.forall_move (P := fun k phase => ∀ result, phase.unrecorded = some result →
    (pool.phase k).unrecorded = some result) phases mine fun _ _ _ => id

section Cons

variable {pool pool' : Pool} {note : Note} {after mid before : List Note}
  {time call since time' closer k : Nat}

/-- Behind a note of anything but a call that begins, openings are still shut. -/
theorem Sound.shut_cons (inv : b.Sound pool)
    (split : note :: pool.log = after ++ ⟨time, .opened call since⟩ :: before)
    (unreached : ∀ k, note.mark ≠ .reached k) {t : Nat} (member : ⟨t, .reached k⟩ ∈ after) :
    since + b.coolDown ≤ t := by
  cases after with
  | nil => cases member
  | cons first after =>
    obtain ⟨rfl, tail⟩ := List.cons.inj split
    rcases List.mem_cons.mp member with is | below
    · exact absurd (congrArg Note.mark is).symm (unreached k)
    · exact inv.shut after before time call since tail k t below

/-- A note of anything but a closing leaves the closings as they were. -/
theorem Sound.probed_cons (inv : b.Sound pool) (split : note :: pool.log =
      after ++ ⟨time', .closed closer⟩ :: (mid ++ ⟨time, .opened call since⟩ :: before))
    (unclosed : ∀ k, note.mark ≠ .closed k) :
    (∃ probes, b.EnoughProbes since mid probes) ∧ .reached closer ∉ marks before := by
  cases after with
  | nil => exact absurd (congrArg Note.mark (List.cons.inj split).1) (unclosed closer)
  | cons first after =>
    exact inv.probed after mid before time call since time' closer (List.cons.inj split).2

/-- A note of anything but a call that begins is no second beginning. -/
theorem Sound.once_cons (inv : b.Sound pool) (onward : Onward pool pool')
    (unreached : ∀ k, note.mark ≠ .reached k) :
    (marks (note :: pool.log)).count (.reached k) ≤ if (pool'.phase k).isEarly then 0 else 1 := by
  show (note.mark :: marks pool.log).count (Mark.reached k) ≤ _
  rw [List.count_cons_of_ne (unreached k)]
  exact Nat.le_trans (inv.once k) (onward.once k)

end Cons

/-- A call reaches the wrapped client when the cool-down of every opening has
passed. -/
theorem Sound.reaches {pool pool' : Pool} (inv : b.Sound pool) (onward : Onward pool pool')
    {call : Nat} (log : pool'.log = ⟨pool.clock, .reached call⟩ :: pool.log)
    (cooled : ∀ time other since, ⟨time, .opened other since⟩ ∈ pool.log →
      since + b.coolDown ≤ pool.clock)
    (waited : (pool.phase call).isEarly = true) (calls : pool'.phase call = .calling)
    (others : ∀ k, k ≠ call → pool'.phase k = pool.phase k)
    (half : pool'.node.state = .halfOpen → pool'.node.consecutiveSuccesses = 0 ∨
      pool.node.state = .halfOpen ∧
        pool'.node.consecutiveSuccesses = pool.node.consecutiveSuccesses) :
    b.Sound pool' := by
  have since_eq : marks (sinceOpened pool'.log) =
      .reached call :: marks (sinceOpened pool.log) := by
    rw [log, sinceOpened_cons _ rfl]
    rfl
  refine ⟨onward.asked, ?_, ?_, ?_, ?_, ?_, ?_⟩
  · intro time other since member
    rw [log] at member
    have below := (List.mem_cons.mp member).resolve_left nofun
    exact .inl (Nat.le_trans (cooled time other since below) onward.clock)
  · intro after before time other since split k t member
    rw [log] at split
    cases after with
    | nil => cases split
    | cons first after =>
      obtain ⟨rfl, tail⟩ := List.cons.inj split
      rcases List.mem_cons.mp member with is | below
      · cases is
        exact cooled time other since (tail ▸ List.mem_append_right _ List.mem_cons_self)
      · exact inv.shut after before time other since tail k t below
  · intro k
    have was := inv.once k
    rw [log]
    show (.reached call :: marks pool.log).count (Mark.reached k) ≤ _
    -- The call was waiting, so it had not reached the wrapped client before.
    by_cases here : k = call
    · subst here
      rw [waited, if_pos rfl] at was
      rw [List.count_cons_self, calls]
      exact Nat.succ_le_succ was
    · have other : Mark.reached call ≠ .reached k := fun same => by cases same; exact here rfl
      rw [List.count_cons_of_ne other, others k here]
      exact was
  · intro k result is member
    rw [since_eq] at member ⊢
    by_cases here : k = call
    · rw [here, calls] at is
      cases is
    · rw [others k here] at is
      rcases List.mem_cons.mp member with same | below
      · cases same
        exact absurd rfl here
      · exact List.mem_cons_of_mem _ (inv.ended k result is below)
  · intro isHalf
    rcases half isHalf with none | ⟨was, same⟩
    · exact ⟨[], List.nodup_nil, none.symm, nofun⟩
    · obtain ⟨probes, distinct, length, each⟩ := inv.counted was
      refine ⟨probes, distinct, length.trans same.symm, fun k member => ?_⟩
      obtain ⟨ended, reached, succeeded⟩ := each k member
      rw [since_eq]
      exact ⟨onward.returned k ended, List.mem_cons_of_mem _ reached,
        List.mem_cons_of_mem _ succeeded⟩
  · intro after mid before time other since time' closer split
    rw [log] at split
    exact inv.probed_cons split nofun

/-- A record writes an open circuit. -/
theorem Sound.opens {pool pool' : Pool} (inv : b.Sound pool) (onward : Onward pool pool')
    {call since : Nat} (log : pool'.log = ⟨pool.clock, .opened call since⟩ :: pool.log)
    (state : pool'.node.state = .opened since)
    (was : ∀ before, pool.node.state = .opened before → before = since) : b.Sound pool' := by
  -- Nothing is noted yet since this opening.
  have none : marks (sinceOpened pool'.log) = [] := by
    rw [log, sinceOpened_opened]
    rfl
  refine ⟨onward.asked, ?_, ?_, ?_, ?_, ?_, ?_⟩
  · intro time other since' member
    rw [log] at member
    rcases List.mem_cons.mp member with is | below
    · cases is
      exact .inr state
    · rcases inv.cooled time other since' below with cool | still
      · exact .inl (Nat.le_trans cool onward.clock)
      · rw [was since' still]
        exact .inr state
  · intro after before time other since' split k t member
    rw [log] at split
    exact inv.shut_cons split nofun member
  · intro k
    rw [log]
    exact inv.once_cons onward nofun
  · intro k result _ member
    rw [none] at member
    cases member
  · intro half
    rw [state] at half
    cases half
  · intro after mid before time other since' time' closer split
    rw [log] at split
    exact inv.probed_cons split nofun

/-- The probes of a half-open circuit and the call whose success is being recorded. -/
theorem Sound.probes {pool : Pool} (inv : b.Sound pool) (half : pool.node.state = .halfOpen)
    {call : Nat} {result : Except CallError Unit}
    (waiting : (pool.phase call).unrecorded = some result)
    (success : classifyResult result = .success)
    (onTime : .reached call ∈ marks (sinceOpened pool.log)) :
    ∃ probes : List Nat, probes.Nodup ∧
      probes.length = pool.node.consecutiveSuccesses + 1 ∧ call ∈ probes ∧ ∀ k ∈ probes,
        (k = call ∨ (pool.phase k).isReturned = true) ∧
        .reached k ∈ marks (sinceOpened pool.log) ∧
        .ended k .success ∈ marks (sinceOpened pool.log) := by
  obtain ⟨probes, distinct, length, each⟩ := inv.counted half
  -- A call whose success is being recorded is not over, so it is not among those counted.
  have new : call ∉ probes := by
    intro member
    have ended := (each call member).1
    cases phase : pool.phase call with
    | returned result => rw [phase] at waiting; cases waiting
    | _ => rw [phase] at ended; cases ended
  refine ⟨call :: probes, List.nodup_cons.mpr ⟨new, distinct⟩, congrArg (· + 1) length,
    List.mem_cons_self, fun k member => ?_⟩
  rcases List.mem_cons.mp member with rfl | old
  · have ended := inv.ended k result waiting onTime
    rw [success] at ended
    exact ⟨.inl rfl, onTime, ended⟩
  · obtain ⟨ended, reached, succeeded⟩ := each k old
    exact ⟨.inr ended, reached, succeeded⟩

/-- The invariant once a call is over, before the node and the log have changed. -/
theorem Sound.returned {pool pool' : Pool} (inv : b.Sound pool) (onward : Onward pool pool')
    {call : Nat} {result : Except CallError Unit} (ended : pool'.phase call = .returned result)
    (others : ∀ k, k ≠ call → pool'.phase k = pool.phase k) :
    b.Sound { pool' with node := pool.node, log := pool.log } := by
  have same : Onward pool { pool' with node := pool.node, log := pool.log } :=
    ⟨onward.clock, onward.asked, onward.early, onward.returned⟩
  have log : { pool' with node := pool.node, log := pool.log }.log = [] ++ pool.log := rfl
  refine inv.plain same log nofun rfl (fun _ => rfl) fun k unrecorded is => .inl ?_
  by_cases here : k = call
  · rw [here] at is
    simp only [ended] at is
    cases is
  · simp only [others k here] at is
    exact is

/-- A success is counted on a half-open circuit. -/
theorem Sound.counts {pool pool' : Pool} (inv : b.Sound pool) (onward : Onward pool pool')
    {call : Nat} {result : Except CallError Unit} (log : pool'.log = pool.log)
    (half : pool.node.state = .halfOpen)
    (one : pool'.node.consecutiveSuccesses = pool.node.consecutiveSuccesses + 1)
    (waiting : (pool.phase call).unrecorded = some result)
    (success : classifyResult result = .success)
    (onTime : .reached call ∈ marks (sinceOpened pool.log))
    (ended : pool'.phase call = .returned result)
    (others : ∀ k, k ≠ call → pool'.phase k = pool.phase k) : b.Sound pool' := by
  have rest := inv.returned onward ended others
  rw [← log] at rest
  refine ⟨rest.asked, ?_, rest.shut, rest.once, rest.ended, ?_, rest.probed⟩
  · intro time other since member
    rcases rest.cooled time other since member with cool | still
    · exact .inl cool
    · cases half.symm.trans still
  · intro _
    obtain ⟨probes, distinct, length, _, each⟩ := inv.probes half waiting success onTime
    refine ⟨probes, distinct, length.trans one.symm, fun k member => ?_⟩
    obtain ⟨is, reached, succeeded⟩ := each k member
    rw [log]
    refine ⟨?_, reached, succeeded⟩
    rcases is with rfl | before
    · rw [ended]
      rfl
    · exact onward.returned k before

/-- The last success that is needed closes a half-open circuit. -/
theorem Sound.closes {pool pool' : Pool} (inv : b.Sound pool) (onward : Onward pool pool')
    {call : Nat} {result : Except CallError Unit}
    (log : pool'.log = ⟨pool.clock, .closed call⟩ :: pool.log)
    (half : pool.node.state = .halfOpen) (state : pool'.node.state = .closed)
    (enough : b.config.halfOpenProbeCount.toNat ≤ pool.node.consecutiveSuccesses + 1)
    (waiting : (pool.phase call).unrecorded = some result)
    (success : classifyResult result = .success)
    (onTime : .reached call ∈ marks (sinceOpened pool.log))
    (ended : pool'.phase call = .returned result)
    (others : ∀ k, k ≠ call → pool'.phase k = pool.phase k) : b.Sound pool' := by
  have rest := inv.returned onward ended others
  have since_eq : marks (sinceOpened pool'.log) =
      .closed call :: marks (sinceOpened pool.log) := by
    rw [log, sinceOpened_cons _ rfl]
    rfl
  refine ⟨rest.asked, ?_, ?_, ?_, ?_, ?_, ?_⟩
  · intro time other since member
    rw [log] at member
    have below := (List.mem_cons.mp member).resolve_left nofun
    rcases rest.cooled time other since below with cool | still
    · exact .inl cool
    · cases half.symm.trans still
  · intro after before time other since split k t member
    rw [log] at split
    exact inv.shut_cons split nofun member
  · intro k
    rw [log]
    exact inv.once_cons onward nofun
  · intro k result' is member
    rw [since_eq] at member ⊢
    exact List.mem_cons_of_mem _
      (rest.ended k result' is ((List.mem_cons.mp member).resolve_left nofun))
  · intro isHalf
    cases state.symm.trans isHalf
  · intro after mid before time other since time' closer split
    rw [log] at split
    cases after with
    | cons first after =>
      exact inv.probed after mid before time other since time' closer (List.cons.inj split).2
    | nil =>
      obtain ⟨is, tail⟩ := List.cons.inj split
      cases is
      obtain ⟨probes, distinct, length, mine, each⟩ := inv.probes half waiting success onTime
      have inMid : ∀ {mark : Mark}, mark ∈ marks (sinceOpened pool.log) →
          ∃ t, ⟨t, mark⟩ ∈ mid := by
        intro mark member
        obtain ⟨⟨t, m⟩, noted, rfl⟩ := List.mem_map.mp member
        rw [tail] at noted
        exact ⟨t, mem_of_sinceOpened noted⟩
      refine ⟨⟨probes, distinct, length ▸ enough, fun k member => ?_, fun k member => ?_⟩, ?_⟩
      · obtain ⟨t, noted⟩ := inMid (each k member).2.1
        exact ⟨t, inv.shut mid before time other since tail k t noted, noted⟩
      · obtain ⟨t, noted⟩ := inMid (each k member).2.2
        exact List.mem_map.mpr ⟨_, noted, rfl⟩
      · -- The closing call reached the wrapped client once, and that was after the opening.
        intro earlier
        obtain ⟨t, noted⟩ := inMid onTime
        have later : Mark.reached call ∈ marks mid := List.mem_map.mpr ⟨_, noted, rfl⟩
        have once := inv.once call
        have least : 0 < (marks mid).count (.reached call) := List.count_pos_iff.mpr later
        have first : 0 < (marks before).count (.reached call) := List.count_pos_iff.mpr earlier
        rw [tail, marks_append, List.count_append] at once
        have skip : (marks (⟨time, .opened other since⟩ :: before)).count (.reached call) =
            (marks before).count (.reached call) :=
          List.count_cons_of_ne fun same => by cases same
        rw [skip] at once
        split at once <;> omega

/-! ## Every run -/

/-- Both conditions on a step. -/
def Orderly (b : GrpcBreakerClient) (pool : Pool) (act : Act) : Prop :=
  b.WritesCurrent pool act ∧ RecordsOnTime pool act

instance (pool : Pool) (call : Nat) : (phase : Phase) → Decidable (OnTime pool call phase)
  | .recorded _ _ _ _ => inferInstanceAs (Decidable (_ → _ → _))
  | .entering | .admitting _ | .admitted _ _ _ _ | .calling | .answered _ | .recording _ _
  | .returned _ | .refused _ => isTrue trivial

instance (pool : Pool) : (act : Act) → Decidable (RecordsOnTime pool act)
  | .next call => inferInstanceAs (Decidable (OnTime pool call (pool.phase call)))
  | .tick _ | .answer _ _ | .drop _ => isTrue trivial

instance (b : GrpcBreakerClient) (pool : Pool) (act : Act) : Decidable (b.Orderly pool act) :=
  inferInstanceAs (Decidable (_ ∧ _))

/-- The end of a call whose `record` has been answered. -/
theorem sound_returns (documented : b.transition.Documented) {pool : Pool} (inv : b.Sound pool)
    {call now : Nat} {result : Except CallError Unit} {snapshot node : BreakerNode}
    (stands : pool.phase call = .recorded result snapshot now node)
    (current : b.transition.record pool.node b.config.toBreakerConfig (classifyResult result) now =
      .ok node)
    (onTime : pool.node.state = .halfOpen → classifyResult result = .success →
      .reached call ∈ marks (sinceOpened pool.log))
    (onward : Onward pool ((pool.writeRecord call node).move call (.returned result))) :
    b.Sound ((pool.writeRecord call node).move call (.returned result)) := by
  have waiting : (pool.phase call).unrecorded = some result := by rw [stands]; rfl
  have written : ((pool.writeRecord call node).move call (.returned result)).node = node :=
    Pool.writeRecord_node _ _ _
  have ended := Pool.move_phase_self (pool.writeRecord call node) call (.returned result)
  have others : ∀ k, k ≠ call →
      ((pool.writeRecord call node).move call (.returned result)).phase k = pool.phase k := by
    intro k other
    rw [Pool.move_phase_other _ _ _ other, Pool.writeRecord_phase]
  rcases documented.record_cases current with
    ⟨was, is⟩ | ⟨was, is⟩ | ⟨since, was, is⟩ | ⟨success, was, is, one⟩ | ⟨success, was, is, enough⟩
  · -- Closed stays closed.
    have log : (pool.writeRecord call node).log = pool.log :=
      Pool.writeRecord_log_same call (fun _ opened => nomatch is.symm.trans opened) fun _ => was
    have state := (congrArg BreakerNode.state written).trans (is.trans was.symm)
    refine inv.quiet onward log state (fun half => by cases was.symm.trans half)
      (unrecorded_move (Pool.writeRecord_phase _ _ _) nofun)
  · -- The circuit opens.
    exact inv.opens onward (Pool.writeRecord_log_opened call is) (by rw [written, is])
      fun before still => absurd still (was before)
  · -- An open circuit stays open.
    refine inv.opens onward (Pool.writeRecord_log_opened call is) (by rw [written, is])
      fun before still => ?_
    cases was.symm.trans still
    rfl
  · -- A success is counted.
    have log : (pool.writeRecord call node).log = pool.log :=
      Pool.writeRecord_log_same call (fun _ opened => nomatch is.symm.trans opened)
        fun closed => by cases is.symm.trans closed
    exact inv.counts onward log was (by rw [written, one]) waiting success (onTime was success)
      ended others
  · -- The last success that was needed closes the circuit.
    have log : (pool.writeRecord call node).log = ⟨pool.clock, .closed call⟩ :: pool.log :=
      Pool.writeRecord_log_closing call is fun closed => nomatch was.symm.trans closed
    exact inv.closes onward log was (by rw [written, is]) enough waiting success
      (onTime was success) ended others

/-- An orderly step keeps the invariant. -/
theorem sound_step (documented : b.transition.Documented) {pool pool' : Pool} {act : Act}
    (inv : b.Sound pool) (orderly : b.Orderly pool act) (moves : b.Moves paths pool act pool') :
    b.Sound pool' := by
  have onward := onward_of_moves inv moves
  obtain ⟨current, onTime⟩ := orderly
  cases moves with
  | tick nanos => exact inv.quiet onward rfl rfl (fun _ => rfl) fun _ _ => id
  | drop call => exact inv.quiet onward rfl rfl (fun _ => rfl) fun _ _ => id
  | @begin call stands =>
    have log : pool.log.cons ⟨pool.clock, .began call⟩ = [⟨pool.clock, .began call⟩] ++ pool.log :=
      rfl
    refine inv.plain onward log (fun note member => ?_) rfl (fun _ => rfl)
      fun k result is => .inl (unrecorded_move rfl (fun _ none => by cases none) k result is)
    rw [List.mem_singleton.mp member]
    rfl
  | admitFails stands failed =>
    exact inv.quiet onward rfl rfl (fun _ => rfl) (unrecorded_move rfl fun _ none => by cases none)
  | admits stands asked =>
    exact inv.quiet onward rfl rfl (fun _ => rfl) (unrecorded_move rfl fun _ none => by cases none)
  | @refuses call now snapshot node stands =>
    simp only [WritesCurrent, stands] at current
    rcases documented.admit_cases current with ⟨is, _⟩ | ⟨_, since, was, is⟩ | ⟨is, _⟩
    · cases is
    · have log : (pool.write call node).log = pool.log :=
        Pool.write_log_same call fun closed => by cases is.symm.trans closed
      have state := (congrArg BreakerNode.state (Pool.write_node pool call node)).trans
        (is.trans was.symm)
      exact inv.quiet onward log state (fun half => by cases was.symm.trans half)
        (unrecorded_move (Pool.write_phase _ _ _) fun _ none => by cases none)
    · cases is
  | @proceeds call now snapshot node stands =>
    simp only [WritesCurrent, stands] at current
    have log : (pool.write call node).log = pool.log →
        (((pool.write call node).note (.reached call)).move call .calling).log =
          ⟨pool.clock, .reached call⟩ :: pool.log := by
      intro same
      rw [Pool.move_log, Pool.note_log, same, Pool.write_clock]
    have written : (((pool.write call node).note (.reached call)).move call .calling).node = node :=
      Pool.write_node _ _ _
    have waited : (pool.phase call).isEarly = true := by rw [stands]; rfl
    have others : ∀ k, k ≠ call →
        (((pool.write call node).note (.reached call)).move call .calling).phase k =
          pool.phase k := by
      intro k other
      rw [Pool.move_phase_other _ _ _ other, Pool.note_phase, Pool.write_phase]
    rcases documented.admit_cases current with
      ⟨_, same, notOpen⟩ | ⟨is, _⟩ | ⟨_, since, was, late, is, none⟩
    · -- The circuit is closed or half-open: every opening has cooled down.
      refine inv.reaches onward (log (Pool.write_log_same call fun closed => same ▸ closed))
        (fun time other since' member => ?_) waited (Pool.move_phase_self _ _ _) others
        fun half => .inr ?_
      · exact (inv.cooled time other since' member).resolve_right (notOpen since')
      · rw [written, same] at half
        rw [written, same]
        exact ⟨half, rfl⟩
    · cases is
    · -- The circuit is open and its cool-down has passed.
      refine inv.reaches onward
        (log (Pool.write_log_same call fun closed => by cases is.symm.trans closed))
        (fun time other since' member => ?_) waited (Pool.move_phase_self _ _ _) others
        fun _ => .inl (by rw [written, none])
      rcases inv.cooled time other since' member with cool | still
      · exact cool
      · cases was.symm.trans still
        exact Nat.le_trans late (inv.asked call _ _ _ _ stands)
  | @answers call result stands =>
    have log : pool.log.cons ⟨pool.clock, .ended call (classifyResult result)⟩ =
        [⟨pool.clock, .ended call (classifyResult result)⟩] ++ pool.log := rfl
    refine inv.plain onward log (fun note member => ?_) rfl (fun _ => rfl) fun k unrecorded is => ?_
    · rw [List.mem_singleton.mp member]
      rfl
    · by_cases here : k = call
      · rw [here, Pool.move_phase_self] at is
        cases is
        exact .inr (here ▸ List.mem_cons_self)
      · rw [Pool.move_phase_other _ _ _ here] at is
        exact .inl is
  | looks stands =>
    exact inv.quiet onward rfl rfl (fun _ => rfl)
      (unrecorded_move rfl fun _ is => by rw [stands]; exact is)
  | recordFails stands failed =>
    exact inv.quiet onward rfl rfl (fun _ => rfl) (unrecorded_move rfl fun _ none => by cases none)
  | records stands asked =>
    exact inv.quiet onward rfl rfl (fun _ => rfl)
      (unrecorded_move rfl fun _ is => by rw [stands]; exact is)
  | @returns call now result snapshot node stands =>
    simp only [WritesCurrent, stands] at current
    simp only [RecordsOnTime, OnTime, stands] at onTime
    exact sound_returns documented inv stands current onTime onward

/-- On the documented state machine, every run whose write-backs are current and
whose records are on time keeps what an open circuit promises. -/
theorem open_means_open (documented : b.transition.Documented) (enabled : b.config.enabled = true)
    {acts : List Act} {pool : Pool}
    (orderly : Runs.AllSteps (b.step paths) b.Orderly .start acts)
    (ran : Runs.run (b.step paths) .start acts = some pool) : b.OpenMeansOpen pool.log :=
  (Runs.run_invariant_of b.Sound
    (fun _ _ _ inv ok stepped => sound_step documented inv ok (step_cases enabled stepped))
    sound_start orderly ran).openMeansOpen

end GrpcBreakerClient

/-! ## What breaks the promise -/

/-- A breaker of that policy on the three-state machine. -/
def oneFailureBreaker : GrpcBreakerClient := ⟨oneFailureConfig, .threeState⟩

/-- Call 1 takes its copy of the closed circuit and is answered; call 0 fails and
opens the circuit; call 1 writes the closed circuit back; call 2 begins. -/
def staleAdmit : List Act :=
  [.next 1, .next 1, .next 0, .next 0, .next 0, .answer 0 peerDown, .next 0, .next 0, .next 0,
    .next 1, .next 2, .next 2, .next 2]

/-- Calls 0 and 1 are let through; call 0 fails and opens the circuit; after the
cool-down call 2 is let through as a probe; then call 1 succeeds. -/
def lateSuccess : List Act :=
  [.next 0, .next 0, .next 0, .next 1, .next 1, .next 1, .answer 0 peerDown,
    .next 0, .next 0, .next 0, .tick 1000000000, .next 2, .next 2, .next 2,
    .answer 1 (.ok ()), .next 1, .next 1, .next 1]

/-- In the first run a call reaches the wrapped client right after the circuit
opened; in the second, all of whose write-backs are current, the circuit is closed
by a call from before the opening while its only probe is still running. -/
theorem open_circuit_broken :
    (∃ pool, Runs.run (oneFailureBreaker.step fun _ => "/test.Peer/Echo") .start staleAdmit =
        some pool ∧ ¬ oneFailureBreaker.OpenMeansOpen pool.log) ∧
    (∃ pool, Runs.run (oneFailureBreaker.step fun _ => "/test.Peer/Echo") .start lateSuccess =
        some pool ∧
      Runs.AllSteps (oneFailureBreaker.step fun _ => "/test.Peer/Echo")
        oneFailureBreaker.WritesCurrent .start lateSuccess ∧
      ¬ oneFailureBreaker.OpenMeansOpen pool.log) := by
  refine ⟨⟨_, rfl, fun promise => ?_⟩, ⟨_, rfl, by decide, fun promise => ?_⟩⟩
  · have early := promise.shut
      [⟨0, .reached 2⟩, ⟨0, .began 2⟩, ⟨0, .reached 1⟩, ⟨0, .closed 1⟩]
      [⟨0, .ended 0 .failure⟩, ⟨0, .reached 0⟩, ⟨0, .began 0⟩, ⟨0, .began 1⟩] 0 0 0 rfl 2
      (by decide) 0 List.mem_cons_self
    exact absurd early (by decide)
  · have late := promise.late []
      [⟨1000000000, .ended 1 .success⟩, ⟨1000000000, .reached 2⟩, ⟨1000000000, .began 2⟩]
      [⟨0, .ended 0 .failure⟩, ⟨0, .reached 1⟩, ⟨0, .began 1⟩, ⟨0, .reached 0⟩, ⟨0, .began 0⟩]
      0 0 0 1000000000 1 rfl
    exact absurd (by decide) late

/-- Calls 0 and 1 are let through together. Call 0 fails and opens the circuit; while it is
open call 1 succeeds and call 2 is refused. After the cool-down calls 3 and 4 are both let
through, and call 3 closes the circuit while call 4 is still running. -/
def openedAndProbed : List Act :=
  [.next 0, .next 1, .next 0, .next 1, .next 1, .next 0, .answer 0 peerDown, .next 0, .next 0,
    .next 0, .next 2, .answer 1 (.ok ()), .next 1, .next 2, .next 1, .next 1, .next 2,
    .tick 1000000000, .next 3, .next 3, .next 3, .next 4, .next 4, .next 4, .answer 3 (.ok ()),
    .next 3, .next 3, .next 3]

/-- An orderly run of overlapping calls that opens the circuit, refuses a call and closes it. -/
theorem opened_and_probed :
    ∃ pool, Runs.run (oneFailureBreaker.step fun _ => "/test.Peer/Echo") .start openedAndProbed =
        some pool ∧ pool.node.state = .closed ∧
      pool.phase 2 = .refused (.transport "/test.Peer/Echo" .unavailable
        "grpc-breaker: circuit open, request short-circuited") ∧
      pool.phase 4 = .calling ∧ oneFailureBreaker.OpenMeansOpen pool.log := by
  have orderly : Runs.AllSteps (oneFailureBreaker.step fun _ => "/test.Peer/Echo")
      oneFailureBreaker.Orderly .start openedAndProbed := by decide
  exact ⟨_, rfl, rfl, rfl, rfl, GrpcBreakerClient.open_means_open
    BreakerTransition.threeState_documented rfl orderly rfl⟩

end GrpcEgress
