/-!
# Polled computations

A future is a computation that runs only while it is polled. One poll moves the state
of the world and either yields a value or leaves the future pending. Nothing happens
between two polls.

`select` is the biased choice of two futures: the first one is polled first, and the
second one is polled only if the first is pending. A choice that the first one wins
drops the second, which may itself move the world. `level` is a future that does not
run at all: it is ready whenever the world says so.

The laws of `select` are `select_of_ready` and `select_of_pending`; a race against a
level is decided by the world alone (`select_level`).
-/

namespace Polling

variable {S α : Type}

/-- One poll of a future: the world after it, and the value if the future is ready. -/
abbrev Poll (S α : Type) := S → S × Option α

/-- Ready with `value s` in the worlds that satisfy `ready`. -/
def level (ready : S → Bool) (value : S → α) : Poll S α :=
  fun s => (s, if ready s then some (value s) else none)

/-- One poll of the biased choice. `drop` is what becomes of the world when the second
future is dropped. -/
def select (first : Poll S α) (drop : S → S) (second : Poll S α) : Poll S α := fun s =>
  match first s with
  | (s, some value) => (drop s, some value)
  | (s, none) => second s

variable {first second : Poll S α} {drop : S → S} {s s' : S}

theorem select_of_ready {value : α} (ready : first s = (s', some value)) :
    select first drop second s = (drop s', some value) := by
  simp only [select, ready]

theorem select_of_pending (pending : first s = (s', none)) :
    select first drop second s = second s' := by
  simp only [select, pending]

/-- A level wins the choice wherever it holds, even if the other future is ready too, and
else the choice is that future. -/
theorem select_level (ready : S → Bool) (value : S → α) :
    select (level ready value) drop second s =
      if ready s then (drop s, some (value s)) else second s := by
  cases holds : ready s with
  | true => exact select_of_ready (by simp only [level, holds, if_true])
  | false => exact select_of_pending (by simp only [level, holds, Bool.false_eq_true, if_false])

end Polling
