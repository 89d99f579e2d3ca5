/-!
# Checked values

A type whose values are made by a check of some data, and written back as that data. `Made`
says which values the check makes; where it makes all of them, it holds of everything.

1. `made_iff`, `accepted_iff`: what is made is what is read back, and what is accepted is
   what something made is written as;
2. `readText_eq_ok_iff`: the same for a text whose data a parser finds;
3. `again_eq`: a second check that refuses nothing that was made may be left out.
-/

/-- A check `read`, which makes values of data, and the data that a value is written as. -/
structure Checked (δ α ε : Type) where
  read : δ → Except ε α
  write : α → δ
  Made : α → Prop
  write_read : ∀ {d a}, read d = .ok a → Made a ∧ write a = d
  read_write : ∀ {a}, Made a → read (write a) = .ok a

namespace Checked

section

variable {δ α ε ε' : Type} (c : Checked δ α ε)

theorem read_eq_ok_iff {d : δ} {a : α} : c.read d = .ok a ↔ c.Made a ∧ c.write a = d := by
  constructor
  · exact c.write_read
  · rintro ⟨made, rfl⟩
    exact c.read_write made

/-- The values that are made are those that are read back. -/
theorem made_iff {a : α} : c.Made a ↔ c.read (c.write a) = .ok a :=
  ⟨c.read_write, fun same => (c.write_read same).1⟩

/-- Data is accepted iff something made is written so. -/
theorem accepted_iff {d : δ} : (∃ a, c.read d = .ok a) ↔ ∃ a, c.Made a ∧ c.write a = d :=
  exists_congr fun _ => c.read_eq_ok_iff

theorem mapError_eq_ok_iff {made : Except ε α} {tell : ε → ε'} {a : α} :
    made.mapError tell = .ok a ↔ made = .ok a := by
  cases made with
  | error e => exact ⟨fun refused => (by cases refused), fun refused => (by cases refused)⟩
  | ok a' => exact ⟨fun same => congrArg _ (Except.ok.inj same),
      fun same => congrArg _ (Except.ok.inj same)⟩

/-- The parser of a text finds its data, which is checked; a refusal is told in words. -/
def readText (parse : String → Except String δ) (tell : ε → String) (text : String) :
    Except String α :=
  match parse text with
  | .error reason => .error reason
  | .ok d => (c.read d).mapError tell

theorem readText_eq_ok_iff {parse : String → Except String δ} {tell : ε → String} {text : String}
    {a : α} : c.readText parse tell text = .ok a ↔ parse text = .ok (c.write a) ∧ c.Made a := by
  unfold readText
  cases parsed : parse text with
  | error reason =>
    constructor
    · intro refused
      cases refused
    · rintro ⟨found, -⟩
      cases found
  | ok d =>
    dsimp only
    rw [mapError_eq_ok_iff, c.read_eq_ok_iff]
    constructor
    · rintro ⟨made, rfl⟩
      exact ⟨rfl, made⟩
    · rintro ⟨found, made⟩
      exact ⟨made, (Except.ok.inj found).symm⟩

/-- A value that was made is checked once more. -/
def again (made : Except ε α) (check : α → Except ε Unit) : Except ε α :=
  match made with
  | .error e => .error e
  | .ok a =>
    match check a with
    | .error e => .error e
    | .ok () => .ok a

theorem again_eq {made : Except ε α} {check : α → Except ε Unit}
    (passes : ∀ a, made = .ok a → check a = .ok ()) : again made check = made := by
  cases made with
  | error e => rfl
  | ok a =>
    simp only [again, passes a rfl]

end

end Checked
