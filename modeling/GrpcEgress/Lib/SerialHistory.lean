/-!
# Serial histories

Operations that run as a whole, one after another: `exec` takes the state before
an operation to the state after it and the operation's answer. `replay` is the
state a list of them ends in and `history` pairs each one with its answer.

To linearize a concurrent run one builds such a list while the run goes on. It
grows at its end (`history_append`), or in the middle by an operation that leaves
the state there as it is (`replay_insert`, `history_insert`). `Seen` is what makes
the second possible: the state an operation has looked at is a state of the serial
run, and none of the owner's own operations came after it.
-/

namespace SerialHistory

variable {σ ω υ : Type}

/-- The state after `ops`. -/
def replay (exec : σ → ω → σ × υ) : σ → List ω → σ
  | s, [] => s
  | s, op :: ops => replay exec (exec s op).1 ops

/-- Each of `ops` with its answer. -/
def history (exec : σ → ω → σ × υ) : σ → List ω → List (ω × υ)
  | _, [] => []
  | s, op :: ops => (op, (exec s op).2) :: history exec (exec s op).1 ops

/-- The part of a history that `own` selects. -/
def ownHistory (own : ω → Bool) (exec : σ → ω → σ × υ) (s : σ) (ops : List ω) : List (ω × υ) :=
  (history exec s ops).filter fun entry => own entry.1

/-- `t` is a state of the serial run of `ops`, and no operation that `own` selects
comes after it. -/
def Seen (own : ω → Bool) (exec : σ → ω → σ × υ) (s : σ) (ops : List ω) (t : σ) : Prop :=
  ∃ before after, ops = before ++ after ∧ replay exec s before = t ∧
    ∀ op ∈ after, own op = false

section

variable {exec : σ → ω → σ × υ} {s : σ}

theorem replay_append (before after : List ω) :
    replay exec s (before ++ after) = replay exec (replay exec s before) after := by
  induction before generalizing s with
  | nil => rfl
  | cons op before ih => exact ih

theorem history_append (before after : List ω) : history exec s (before ++ after) =
    history exec s before ++ history exec (replay exec s before) after := by
  induction before generalizing s with
  | nil => rfl
  | cons op before ih => exact congrArg _ ih

theorem replay_concat (ops : List ω) (op : ω) :
    replay exec s (ops ++ [op]) = (exec (replay exec s ops) op).1 :=
  replay_append ops [op]

/-- An operation that leaves the state in the middle of a serial run as it is does
not change where the run ends. -/
theorem replay_insert {before after : List ω} {op : ω}
    (idle : (exec (replay exec s before) op).1 = replay exec s before) :
    replay exec s (before ++ op :: after) = replay exec s (before ++ after) := by
  rw [replay_append, replay_append]
  show replay exec (exec (replay exec s before) op).1 after = _
  rw [idle]

variable {own : ω → Bool}

theorem ownHistory_append (before after : List ω) : ownHistory own exec s (before ++ after) =
    ownHistory own exec s before ++ ownHistory own exec (replay exec s before) after := by
  rw [ownHistory, history_append, List.filter_append]
  rfl

theorem ownHistory_cons_own {op : ω} (mine : own op = true) (ops : List ω) :
    ownHistory own exec s (op :: ops) =
      (op, (exec s op).2) :: ownHistory own exec (exec s op).1 ops :=
  List.filter_cons_of_pos mine

theorem ownHistory_cons_other {op : ω} (other : own op = false) (ops : List ω) :
    ownHistory own exec s (op :: ops) = ownHistory own exec (exec s op).1 ops :=
  List.filter_cons_of_neg (by simp [other])

/-- One's own history has one's own operations, in their order. -/
theorem ownHistory_ops (ops : List ω) :
    (ownHistory own exec s ops).map Prod.fst = ops.filter own := by
  induction ops generalizing s with
  | nil => rfl
  | cons op ops ih =>
    cases mine : own op with
    | true =>
      rw [ownHistory_cons_own mine, List.filter_cons_of_pos mine]
      exact congrArg _ ih
    | false =>
      rw [ownHistory_cons_other mine, List.filter_cons_of_neg (by simp [mine])]
      exact ih

theorem ownHistory_eq_nil {ops : List ω} (none : ∀ op ∈ ops, own op = false) :
    ownHistory own exec s ops = [] := by
  induction ops generalizing s with
  | nil => rfl
  | cons op ops ih =>
    rw [ownHistory_cons_other (none op List.mem_cons_self)]
    exact ih fun other member => none other (List.mem_cons_of_mem _ member)

/-- An operation of somebody else, inserted where it leaves the state as it is,
changes nothing of one's own history. -/
theorem ownHistory_insert_other {before after : List ω} {op : ω} (other : own op = false)
    (idle : (exec (replay exec s before) op).1 = replay exec s before) :
    ownHistory own exec s (before ++ op :: after) = ownHistory own exec s (before ++ after) := by
  rw [ownHistory_append, ownHistory_append, ownHistory_cons_other other, idle]

/-- One's own operation, inserted after all one's others, comes last in one's own
history. -/
theorem ownHistory_insert_own {before after : List ω} {op : ω} (mine : own op = true)
    (rest : ∀ x ∈ after, own x = false) :
    ownHistory own exec s (before ++ op :: after) =
      ownHistory own exec s (before ++ after) ++ [(op, (exec (replay exec s before) op).2)] := by
  rw [ownHistory_append, ownHistory_append, ownHistory_cons_own mine, ownHistory_eq_nil rest,
    ownHistory_eq_nil rest, List.append_nil]

theorem ownHistory_concat_other {ops : List ω} {op : ω} (other : own op = false) :
    ownHistory own exec s (ops ++ [op]) = ownHistory own exec s ops := by
  rw [ownHistory_append, ownHistory_cons_other other]
  exact List.append_nil _

theorem ownHistory_concat_own {ops : List ω} {op : ω} (mine : own op = true) :
    ownHistory own exec s (ops ++ [op]) =
      ownHistory own exec s ops ++ [(op, (exec (replay exec s ops) op).2)] := by
  rw [ownHistory_append, ownHistory_cons_own mine]
  rfl

/-- The state a serial run ends in is seen. -/
theorem seen_now (ops : List ω) : Seen own exec s ops (replay exec s ops) :=
  ⟨ops, [], (List.append_nil _).symm, rfl, fun _ member => nomatch member⟩

theorem Seen.concat {ops : List ω} {t : σ} (seen : Seen own exec s ops t) {op : ω}
    (other : own op = false) : Seen own exec s (ops ++ [op]) t := by
  obtain ⟨before, after, rfl, reached, rest⟩ := seen
  refine ⟨before, after ++ [op], List.append_assoc _ _ _, reached, fun x member => ?_⟩
  rcases List.mem_append.mp member with inAfter | isOp
  · exact rest x inAfter
  · rw [List.mem_singleton.mp isOp]
    exact other

theorem Seen.insert {before after : List ω} {t : σ}
    (seen : Seen own exec s (before ++ after) t) {op : ω} (other : own op = false)
    (idle : (exec (replay exec s before) op).1 = replay exec s before) :
    Seen own exec s (before ++ op :: after) t := by
  obtain ⟨first, second, split, reached, rest⟩ := seen
  rcases List.append_eq_append_iff.mp split with ⟨mid, rfl, rfl⟩ | ⟨mid, rfl, rfl⟩
  · -- The state was seen after the place of the insertion.
    refine ⟨before ++ op :: mid, second, (List.append_assoc before (op :: mid) second).symm, ?_,
      rest⟩
    rw [replay_insert idle]
    exact reached
  · -- It was seen before that place.
    refine ⟨first, mid ++ op :: after, List.append_assoc first mid (op :: after), reached,
      fun x member => ?_⟩
    rcases List.mem_append.mp member with inMid | inRest
    · exact rest x (List.mem_append_left _ inMid)
    · rcases List.mem_cons.mp inRest with rfl | inAfter
      · exact other
      · exact rest x (List.mem_append_right _ inAfter)

end

end SerialHistory
