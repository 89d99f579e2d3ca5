/-!
# Walking a list until something fails

`for x in xs { f(x)? }` with a state: the elements are visited in order and the
walk ends at the first one that fails. `walk` returns the indices it visited along
with the result. The result alone is a monadic fold (`walk_result`), so a walk is
that fold with a trace:

1. `walk_ok`: a walk that ends well visits every element;
2. `walk_error`: one that fails visits the elements up to the first failure and no
   further.
-/

namespace Walk

variable {σ α ε : Type}

/-- Visits `xs`, the first of which has index `i`. -/
def walk (f : σ → α → Except ε σ) : Nat → σ → List α → List Nat × Except ε σ
  | _, s, [] => ([], .ok s)
  | i, s, x :: xs =>
    match f s x with
    | .error e => ([i], .error e)
    | .ok s' =>
      let rest := walk f (i + 1) s' xs
      (i :: rest.1, rest.2)

/-- `n` is the index of the first element that fails, with `e`. -/
def FailsAt (f : σ → α → Except ε σ) (s : σ) (xs : List α) (n : Nat) (e : ε) : Prop :=
  ∃ x t, xs[n]? = some x ∧ (xs.take n).foldlM f s = .ok t ∧ f t x = .error e

theorem walk_result (f : σ → α → Except ε σ) (i : Nat) (s : σ) (xs : List α) :
    (walk f i s xs).2 = xs.foldlM f s := by
  induction xs generalizing i s with
  | nil => rfl
  | cons x xs ih =>
    rw [List.foldlM_cons]
    unfold walk
    cases f s x with
    | error e => rfl
    | ok s' => exact ih (i + 1) s'

theorem walk_ok {f : σ → α → Except ε σ} {i : Nat} {s t : σ} {xs : List α}
    (h : xs.foldlM f s = .ok t) : (walk f i s xs).1 = List.range' i xs.length := by
  induction xs generalizing i s with
  | nil => rfl
  | cons x xs ih =>
    rw [List.foldlM_cons] at h
    unfold walk
    cases step : f s x with
    | error e => rw [step] at h; cases h
    | ok s' =>
      rw [step] at h
      rw [List.length_cons, List.range'_succ]
      exact congrArg _ (ih h)

theorem walk_error {f : σ → α → Except ε σ} {i : Nat} {s : σ} {xs : List α} {e : ε}
    (h : xs.foldlM f s = .error e) :
    ∃ n < xs.length, FailsAt f s xs n e ∧ (walk f i s xs).1 = List.range' i (n + 1) := by
  induction xs generalizing i s with
  | nil => cases h
  | cons x xs ih =>
    rw [List.foldlM_cons] at h
    unfold walk
    cases step : f s x with
    | error e' =>
      rw [step] at h
      cases h
      exact ⟨0, Nat.succ_pos _, ⟨x, s, rfl, rfl, step⟩, rfl⟩
    | ok s' =>
      rw [step] at h
      obtain ⟨n, lt, ⟨y, t, nth, before, fails⟩, visited⟩ := ih h (i := i + 1)
      refine ⟨n + 1, Nat.succ_lt_succ lt, ⟨y, t, nth, ?_, fails⟩, ?_⟩
      · rw [List.take_succ_cons, List.foldlM_cons, step]
        exact before
      · rw [List.range'_succ]
        exact congrArg _ visited

/-- However the walk ends, it visits the first few elements, each once and in
order, and every element before the last one it visits succeeds. -/
theorem walk_visited (f : σ → α → Except ε σ) (s : σ) (xs : List α) :
    ∃ m ≤ xs.length, (walk f 0 s xs).1 = List.range m ∧
      ((∃ t, xs.foldlM f s = .ok t) → m = xs.length) ∧
      ∀ k < m, ∃ t, (xs.take k).foldlM f s = .ok t := by
  have taken : ∀ n, (∃ t, (xs.take n).foldlM f s = .ok t) →
      ∀ k ≤ n, ∃ t, (xs.take k).foldlM f s = .ok t := by
    intro n ⟨t, whole⟩ k le
    rw [← List.take_append_drop k (xs.take n), List.take_take, Nat.min_eq_left le,
      List.foldlM_append] at whole
    cases first : (xs.take k).foldlM f s with
    | error e => rw [first] at whole; cases whole
    | ok t => exact ⟨t, rfl⟩
  cases result : xs.foldlM f s with
  | ok t =>
    refine ⟨xs.length, Nat.le_refl _, ?_, fun _ => rfl, fun k lt => ?_⟩
    · rw [walk_ok result, List.range_eq_range']
    · exact taken xs.length ⟨t, by rw [List.take_length, result]⟩ k (Nat.le_of_lt lt)
  | error e =>
    obtain ⟨n, lt, ⟨x, t, _, before, _⟩, visited⟩ := walk_error (i := 0) result
    refine ⟨n + 1, lt, ?_, fun ⟨_, ok⟩ => (nomatch ok), fun k lt => ?_⟩
    · rw [visited, List.range_eq_range']
    · exact taken n ⟨t, before⟩ k (Nat.le_of_lt_succ lt)

end Walk
