/-!
# Computations that may panic

A fallible computation ends in one of three ways: it returns a value, it fails with an
error that its caller sees, or it panics. `Ran` is what it ended in. Binding is the early
return of the language: what follows a failure or a panic does not run.

The loops over a list are the library's `mapM`, `findM?` and `allM`. Each panics at the
first element that does, provided that it gets there, which is what `Reaches` says; so
1. `mapM_eq_returned` and `mapM_eq_panicked`,
2. `findM?_eq_none` and `findM?_eq_panicked`,
3. `allM_eq_true` and `allM_eq_panicked`.
-/

namespace Panicking

/-- What a computation ended in. -/
inductive Ran (ε α : Type) where
  | panicked
  | failed (error : ε)
  | returned (value : α)
deriving DecidableEq

/-- An element of the list that meets `stops`, and before it only such as meet `passes`. -/
def Reaches {α : Type} (passes stops : α → Prop) (l : List α) : Prop :=
  ∃ before a after, l = before ++ a :: after ∧ (∀ x ∈ before, passes x) ∧ stops a

namespace Ran

variable {ε α β : Type}

/-- What follows a value. -/
def andThen (ran : Ran ε α) (next : α → Ran ε β) : Ran ε β :=
  match ran with
  | .panicked => .panicked
  | .failed e => .failed e
  | .returned a => next a

instance : Monad (Ran ε) where
  pure := .returned
  bind := andThen

instance : LawfulMonad (Ran ε) :=
  .mk' _ (fun ran => by cases ran <;> rfl) (fun _ _ => rfl) fun ran _ _ => by cases ran <;> rfl

/-- A result that is not a panic. -/
def ofExcept : Except ε α → Ran ε α
  | .error e => .failed e
  | .ok a => .returned a

/-- An access that panics when there is nothing. -/
def ofOption : Option α → Ran ε α
  | none => .panicked
  | some a => .returned a

@[simp]
theorem ofExcept_eq_returned {result : Except ε α} {a : α} :
    ofExcept result = .returned a ↔ result = .ok a := by
  cases result <;> simp [ofExcept]

@[simp]
theorem ofExcept_ne_panicked {result : Except ε α} : ofExcept result ≠ .panicked := by
  cases result <;> simp [ofExcept]

@[simp]
theorem pure_eq_returned {a b : α} : (pure a : Ran ε α) = .returned b ↔ a = b := by
  show Ran.returned a = .returned b ↔ a = b
  simp

@[simp]
theorem pure_ne_panicked {a : α} : (pure a : Ran ε α) ≠ .panicked := by
  show Ran.returned a ≠ .panicked
  simp

theorem bind_eq_returned {ran : Ran ε α} {next : α → Ran ε β} {b : β} :
    (ran >>= next) = .returned b ↔ ∃ a, ran = .returned a ∧ next a = .returned b := by
  show ran.andThen next = .returned b ↔ _
  cases ran <;> simp [andThen]

theorem bind_eq_failed {ran : Ran ε α} {next : α → Ran ε β} {e : ε} :
    (ran >>= next) = .failed e ↔
      ran = .failed e ∨ ∃ a, ran = .returned a ∧ next a = .failed e := by
  show ran.andThen next = .failed e ↔ _
  cases ran <;> simp [andThen]

theorem bind_eq_panicked {ran : Ran ε α} {next : α → Ran ε β} :
    (ran >>= next) = .panicked ↔
      ran = .panicked ∨ ∃ a, ran = .returned a ∧ next a = .panicked := by
  show ran.andThen next = .panicked ↔ _
  cases ran <;> simp [andThen]

end Ran

/-! ## Loops -/

section

variable {ε α β : Type} {passes stops : α → Prop}

theorem not_reaches_nil : ¬Reaches passes stops [] := by
  rintro ⟨before, a, after, split, -⟩
  cases before <;> cases split

theorem reaches_cons {a : α} {l : List α} :
    Reaches passes stops (a :: l) ↔ stops a ∨ (passes a ∧ Reaches passes stops l) := by
  constructor
  · rintro ⟨before, b, after, split, passed, stopped⟩
    cases before with
    | nil =>
      cases split
      exact .inl stopped
    | cons c before =>
      cases split
      obtain ⟨first, rest⟩ := List.forall_mem_cons.mp passed
      exact .inr ⟨first, before, b, after, rfl, rest, stopped⟩
  · rintro (stopped | ⟨passed, before, b, after, rfl, rest, stopped⟩)
    · exact ⟨[], a, l, rfl, fun _ member => absurd member List.not_mem_nil, stopped⟩
    · exact ⟨a :: before, b, after, rfl, List.forall_mem_cons.mpr ⟨passed, rest⟩, stopped⟩

theorem Reaches.exists_mem {l : List α} (reaches : Reaches passes stops l) :
    ∃ a ∈ l, stops a := by
  obtain ⟨before, a, after, rfl, -, stopped⟩ := reaches
  exact ⟨a, List.mem_append_right _ List.mem_cons_self, stopped⟩

/-- A loop that keeps what it makes of every element: it returns when each does. -/
theorem mapM_eq_returned {f : α → Ran ε β} {g : α → β}
    (only : ∀ a b, f a = .returned b → b = g a) {l : List α} {made : List β} :
    l.mapM f = .returned made ↔ made = l.map g ∧ ∀ a ∈ l, f a = .returned (g a) := by
  induction l generalizing made with
  | nil => simp [eq_comm]
  | cons a l ih =>
    rw [List.mapM_cons, Ran.bind_eq_returned]
    constructor
    · rintro ⟨b, first, rest⟩
      obtain ⟨bs, others, joined⟩ := Ran.bind_eq_returned.mp rest
      obtain ⟨rfl, all⟩ := ih.mp others
      cases only a b first
      exact ⟨(Ran.pure_eq_returned.mp joined).symm, List.forall_mem_cons.mpr ⟨first, all⟩⟩
    · rintro ⟨rfl, all⟩
      obtain ⟨first, rest⟩ := List.forall_mem_cons.mp all
      refine ⟨g a, first, ?_⟩
      rw [ih.mpr ⟨rfl, rest⟩]
      rfl

theorem mapM_eq_panicked {f : α → Ran ε β} {l : List α} :
    l.mapM f = .panicked ↔
      Reaches (fun a => ∃ b, f a = .returned b) (fun a => f a = .panicked) l := by
  induction l with
  | nil => simp [not_reaches_nil]
  | cons a l ih =>
    rw [List.mapM_cons, Ran.bind_eq_panicked, reaches_cons]
    refine or_congr Iff.rfl ?_
    constructor
    · rintro ⟨b, first, rest⟩
      rcases Ran.bind_eq_panicked.mp rest with others | ⟨bs, -, joined⟩
      · exact ⟨⟨b, first⟩, ih.mp others⟩
      · cases joined
    · rintro ⟨⟨b, first⟩, rest⟩
      exact ⟨b, first, Ran.bind_eq_panicked.mpr (.inl (ih.mpr rest))⟩

theorem findM?_cons {p : α → Ran ε Bool} {a : α} {l : List α} :
    (a :: l).findM? p = p a >>= fun found => if found then pure (some a) else l.findM? p := by
  rw [List.findM?]
  congr 1
  funext found
  cases found <;> rfl

theorem findM?_eq_none {p : α → Ran ε Bool} {l : List α} :
    l.findM? p = .returned none ↔ ∀ a ∈ l, p a = .returned false := by
  induction l with
  | nil => simp [List.findM?]
  | cons a l ih =>
    rw [findM?_cons, Ran.bind_eq_returned, List.forall_mem_cons, ← ih]
    constructor
    · rintro ⟨found, first, rest⟩
      cases found with
      | true => simp at rest
      | false => exact ⟨first, rest⟩
    · rintro ⟨first, rest⟩
      exact ⟨false, first, rest⟩

theorem findM?_eq_panicked {p : α → Ran ε Bool} {l : List α} :
    l.findM? p = .panicked ↔
      Reaches (fun a => p a = .returned false) (fun a => p a = .panicked) l := by
  induction l with
  | nil => simp [List.findM?, not_reaches_nil]
  | cons a l ih =>
    rw [findM?_cons, Ran.bind_eq_panicked, reaches_cons, ← ih]
    refine or_congr Iff.rfl ?_
    constructor
    · rintro ⟨found, first, rest⟩
      cases found with
      | true => simp at rest
      | false => exact ⟨first, rest⟩
    · rintro ⟨first, rest⟩
      exact ⟨false, first, rest⟩

theorem allM_cons {p : α → Ran ε Bool} {a : α} {l : List α} :
    (a :: l).allM p = p a >>= fun holds => if holds then l.allM p else pure false := by
  rw [List.allM]
  congr 1
  funext holds
  cases holds <;> rfl

theorem allM_eq_true {p : α → Ran ε Bool} {l : List α} :
    l.allM p = .returned true ↔ ∀ a ∈ l, p a = .returned true := by
  induction l with
  | nil => simp [List.allM]
  | cons a l ih =>
    rw [allM_cons, Ran.bind_eq_returned, List.forall_mem_cons, ← ih]
    constructor
    · rintro ⟨holds, first, rest⟩
      cases holds with
      | true => exact ⟨first, rest⟩
      | false => simp at rest
    · rintro ⟨first, rest⟩
      exact ⟨true, first, rest⟩

theorem allM_eq_panicked {p : α → Ran ε Bool} {l : List α} :
    l.allM p = .panicked ↔
      Reaches (fun a => p a = .returned true) (fun a => p a = .panicked) l := by
  induction l with
  | nil => simp [List.allM, not_reaches_nil]
  | cons a l ih =>
    rw [allM_cons, Ran.bind_eq_panicked, reaches_cons, ← ih]
    refine or_congr Iff.rfl ?_
    constructor
    · rintro ⟨holds, first, rest⟩
      cases holds with
      | true => exact ⟨first, rest⟩
      | false => simp at rest
    · rintro ⟨first, rest⟩
      exact ⟨true, first, rest⟩

/-- A test of every element fails only where the test of one does. -/
theorem exists_mem_of_allM_failed {p : α → Ran ε Bool} {l : List α} {e : ε}
    (failed : l.allM p = .failed e) : ∃ a ∈ l, p a = .failed e := by
  induction l with
  | nil => cases failed
  | cons a l ih =>
    rw [allM_cons, Ran.bind_eq_failed] at failed
    rcases failed with first | ⟨holds, -, rest⟩
    · exact ⟨a, List.mem_cons_self, first⟩
    · cases holds with
      | true =>
        obtain ⟨b, member, there⟩ := ih rest
        exact ⟨b, List.mem_cons_of_mem a member, there⟩
      | false => cases rest

end

end Panicking
