/-!
# Runs of a step function

A system is a step function `σ → α → Option σ`: what an action does to a state,
or nothing when the action cannot happen there. A run is a list of actions that
can happen one after another.

A property of every run is proved from one step: `run_invariant` for an invariant
that every step keeps, and `run_invariant_of` for one that a step keeps when the
state before it and the action meet a condition (`AllSteps`); `run_history` is for an
invariant that speaks of the actions before it as well, and `run_collected_of` for one
that speaks of what the steps before it noted (`collect`). `run_project` does the
same for two systems: one that is a projection of the other, step by step;
`run_simulation` for one whose steps are each matched by a few of the other, or none;
`run_congr_of` for two that agree on the steps of a run.
-/

namespace Runs

variable {σ α : Type}

/-- The state after a run, if the run can happen. -/
def run (step : σ → α → Option σ) : σ → List α → Option σ
  | s, [] => some s
  | s, a :: as => (step s a).bind fun s' => run step s' as

/-- Every step of a run meets `ok`, a condition on the state before the step and
on the action. -/
def AllSteps (step : σ → α → Option σ) (ok : σ → α → Prop) : σ → List α → Prop
  | _, [] => True
  | s, a :: as => ok s a ∧
    match step s a with
    | some s' => AllSteps step ok s' as
    | none => True

instance AllSteps.decidable {step : σ → α → Option σ} {ok : σ → α → Prop}
    [∀ s a, Decidable (ok s a)] : (s : σ) → (as : List α) → Decidable (AllSteps step ok s as)
  | _, [] => .isTrue trivial
  | s, a :: as =>
    have : Decidable (match step s a with
        | some s' => AllSteps step ok s' as
        | none => True) :=
      match step s a with
      | some s' => AllSteps.decidable s' as
      | none => .isTrue trivial
    inferInstanceAs (Decidable (_ ∧ _))

/-- What the steps of a run note, in order. -/
def collect {β : Type} (step : σ → α → Option σ) (note : σ → α → List β) : σ → List α → List β
  | _, [] => []
  | s, a :: as =>
    match step s a with
    | some s' => note s a ++ collect step note s' as
    | none => []

theorem run_cons {step : σ → α → Option σ} {s t : σ} {a : α} {as : List α} :
    run step s (a :: as) = some t ↔ ∃ s', step s a = some s' ∧ run step s' as = some t :=
  Option.bind_eq_some_iff

theorem run_append {step : σ → α → Option σ} {s : σ} {as bs : List α} :
    run step s (as ++ bs) = (run step s as).bind fun s' => run step s' bs := by
  induction as generalizing s with
  | nil => rfl
  | cons a as ih =>
    show (step s a).bind (fun s' => run step s' (as ++ bs)) = _
    simp only [ih, run, Option.bind_assoc]

/-- An invariant that the steps keep under `ok` holds after every run whose steps
all meet `ok`. -/
theorem run_invariant_of {step : σ → α → Option σ} {ok : σ → α → Prop} (Inv : σ → Prop)
    (keeps : ∀ s a s', Inv s → ok s a → step s a = some s' → Inv s') {s t : σ} {as : List α}
    (start : Inv s) (all : AllSteps step ok s as) (ran : run step s as = some t) : Inv t := by
  induction as generalizing s with
  | nil =>
    cases ran
    exact start
  | cons a as ih =>
    obtain ⟨s', stepped, rest⟩ := run_cons.mp ran
    obtain ⟨now, later⟩ := all
    rw [stepped] at later
    exact ih (keeps s a s' start now stepped) later rest

/-- An invariant that speaks of what was noted so far, kept by the steps under `ok`. -/
theorem run_collected_of {β : Type} {step : σ → α → Option σ} {ok : σ → α → Prop}
    {note : σ → α → List β} (Inv : List β → σ → Prop)
    (keeps : ∀ past s a s', Inv past s → ok s a → step s a = some s' → Inv (past ++ note s a) s')
    {s t : σ} {past : List β} {as : List α} (start : Inv past s) (all : AllSteps step ok s as)
    (ran : run step s as = some t) : Inv (past ++ collect step note s as) t := by
  induction as generalizing s past with
  | nil =>
    cases ran
    rw [collect, List.append_nil]
    exact start
  | cons a as ih =>
    obtain ⟨s', stepped, rest⟩ := run_cons.mp ran
    obtain ⟨now, later⟩ := all
    rw [stepped] at later
    simp only [collect, stepped, ← List.append_assoc]
    exact ih (keeps past s a s' start now stepped) later rest

/-- An invariant that every step keeps holds after every run. -/
theorem run_invariant {step : σ → α → Option σ} (Inv : σ → Prop)
    (keeps : ∀ s a s', Inv s → step s a = some s' → Inv s') {s t : σ} {as : List α}
    (start : Inv s) (ran : run step s as = some t) : Inv t := by
  induction as generalizing s with
  | nil =>
    cases ran
    exact start
  | cons a as ih =>
    obtain ⟨s', stepped, rest⟩ := run_cons.mp ran
    exact ih (keeps s a s' start stepped) rest

/-- An invariant that speaks of the actions so far, kept by every step. -/
theorem run_history {step : σ → α → Option σ} (Inv : List α → σ → Prop)
    (keeps : ∀ past s a s', Inv past s → step s a = some s' → Inv (past ++ [a]) s') {s t : σ}
    {past as : List α} (start : Inv past s) (ran : run step s as = some t) :
    Inv (past ++ as) t := by
  induction as generalizing s past with
  | nil =>
    cases ran
    rw [List.append_nil]
    exact start
  | cons a as ih =>
    obtain ⟨s', stepped, rest⟩ := run_cons.mp ran
    rw [List.append_cons]
    exact ih (keeps past s a s' start stepped) rest

/-- A condition that follows from another one in the states of an invariant is met
by the steps of a run that meet the other one. -/
theorem AllSteps.imp_of_invariant {step : σ → α → Option σ} {ok ok' : σ → α → Prop}
    (Inv : σ → Prop) (keeps : ∀ s a s', Inv s → step s a = some s' → Inv s')
    (imp : ∀ s a, Inv s → ok s a → ok' s a) {s : σ} {as : List α} (start : Inv s)
    (all : AllSteps step ok s as) : AllSteps step ok' s as := by
  induction as generalizing s with
  | nil => trivial
  | cons a as ih =>
    obtain ⟨now, later⟩ := all
    refine ⟨imp s a start now, ?_⟩
    cases stepped : step s a with
    | none => trivial
    | some s' =>
      rw [stepped] at later
      exact ih (keeps s a s' start stepped) later

/-- A condition on the steps of a run is one on those of its first part and on the others. -/
theorem AllSteps.of_append {step : σ → α → Option σ} {ok : σ → α → Prop} {s t : σ}
    {as bs : List α} (all : AllSteps step ok s (as ++ bs)) (ran : run step s as = some t) :
    AllSteps step ok s as ∧ AllSteps step ok t bs := by
  induction as generalizing s with
  | nil =>
    cases ran
    exact ⟨trivial, all⟩
  | cons a as ih =>
    obtain ⟨s', stepped, rest⟩ := run_cons.mp ran
    obtain ⟨now, later⟩ := all
    rw [stepped] at later
    obtain ⟨first, second⟩ := ih later rest
    refine ⟨⟨now, ?_⟩, second⟩
    rw [stepped]
    exact first

/-- A system whose states project to those of another one, so that each step projects to
the step of the other: its runs project to runs, and can happen exactly when those can. -/
theorem run_project {τ β : Type} {step : σ → α → Option σ} {step' : τ → β → Option τ}
    (project : σ → τ) (act : β → α) (Inv : σ → Prop)
    (keeps : ∀ s b s', Inv s → step s (act b) = some s' → Inv s')
    (projects : ∀ s b, Inv s → (step s (act b)).map project = step' (project s) b) {s : σ}
    {bs : List β} (start : Inv s) :
    (run step s (bs.map act)).map project = run step' (project s) bs := by
  induction bs generalizing s with
  | nil => rfl
  | cons b bs ih =>
    show ((step s (act b)).bind fun s' => run step s' (bs.map act)).map project =
      (step' (project s) b).bind fun t' => run step' t' bs
    rw [← projects s b start]
    cases stepped : step s (act b) with
    | none => rfl
    | some s' => exact ih (keeps s b s' start stepped)

/-- A system each of whose steps is matched by a run of another one, from the projection of
the state before it to that of the state after it. -/
theorem run_simulation {τ β : Type} {step : σ → α → Option σ} {step' : τ → β → Option τ}
    (project : σ → τ)
    (matched : ∀ s a s', step s a = some s' → ∃ bs, run step' (project s) bs = some (project s'))
    {s t : σ} {as : List α} (ran : run step s as = some t) :
    ∃ bs, run step' (project s) bs = some (project t) := by
  induction as generalizing s with
  | nil =>
    cases ran
    exact ⟨[], rfl⟩
  | cons a as ih =>
    obtain ⟨s', stepped, rest⟩ := run_cons.mp ran
    obtain ⟨first, toFirst⟩ := matched s a s' stepped
    obtain ⟨later, toLast⟩ := ih rest
    refine ⟨first ++ later, ?_⟩
    rw [run_append, toFirst]
    exact toLast

/-- Two systems that take the same steps under `ok` have the same run when its steps all
meet `ok`. -/
theorem run_congr_of {step step' : σ → α → Option σ} {ok : σ → α → Prop}
    (same : ∀ s a, ok s a → step s a = step' s a) {s : σ} {as : List α}
    (all : AllSteps step ok s as) : run step s as = run step' s as := by
  induction as generalizing s with
  | nil => rfl
  | cons a as ih =>
    obtain ⟨now, later⟩ := all
    show ((step s a).bind fun s' => run step s' as) = (step' s a).bind fun s' => run step' s' as
    rw [← same s a now]
    cases stepped : step s a with
    | none => rfl
    | some s' =>
      rw [stepped] at later
      exact ih later

/-- A system in which every action can happen. -/
theorem run_total (apply : σ → α → σ) (s : σ) (as : List α) :
    run (fun s a => some (apply s a)) s as = some (as.foldl apply s) := by
  induction as generalizing s with
  | nil => rfl
  | cons a as ih => exact ih (apply s a)

end Runs
