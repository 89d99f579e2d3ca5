/-!
# Loops over a range with early exits

`for i in 0..bound { body }`, where one pass of the body either goes on with a
new state or leaves the loop with a value, and writes a list of events either
way. The loop is a structural recursion on the passes that are left.

A proof about such a loop first says what its state is at the top of pass `i`,
as a closed form `state i`, and for which passes the body goes on (`stays i`).
`Course` is that claim about one pass. Its consequence `run_course` is about the
whole loop: it makes some number `n` of full passes, all of which stay, and then
either the range is exhausted or pass `n` leaves.

A loop that is run a piece at a time has come to the top of some pass. `Reached` is
what is known there: the whole run is what has been written so far and then the run
from that pass on. It is kept by a pass that goes on, and an exit or the end of the
range turns it into the run itself.
-/

namespace RangeLoop

variable {ε σ β : Type}

/-- What one pass of the body does. -/
inductive Pass (ε σ β : Type) where
  | again (events : List ε) (state : σ)
  | exit (events : List ε) (value : β)

/-- The loop: `fuel` passes are left and the next one has index `i`. It ends with
the last state when the range is exhausted (`inl`), or with the value a pass
left with (`inr`). -/
def run (body : Nat → σ → Pass ε σ β) : Nat → Nat → σ → List ε × (σ ⊕ β)
  | 0, _, s => ([], .inl s)
  | fuel + 1, i, s =>
    match body i s with
    | .again events s' =>
      let rest := run body fuel (i + 1) s'
      (events ++ rest.1, rest.2)
    | .exit events b => (events, .inr b)

/-- The events of the full passes from `i` on, `n` of them. -/
def between (events : Nat → List ε) (i n : Nat) : List ε :=
  (List.range' i n).flatMap events

/-- The state at the top of pass `i` is `state i`, and the passes that go on are
those that `stays` says. -/
structure Course (body : Nat → σ → Pass ε σ β) (state : Nat → σ) (events : Nat → List ε)
    (stays : Nat → Prop) (bound : Nat) : Prop where
  again : ∀ i < bound, stays i → body i (state i) = .again (events i) (state (i + 1))
  leaves : ∀ i < bound, ¬ stays i → ∃ evs b, body i (state i) = .exit evs b

theorem between_succ (events : Nat → List ε) (i n : Nat) :
    between events i (n + 1) = events i ++ between events (i + 1) n := by
  simp [between, List.range'_succ]

theorem between_concat (events : Nat → List ε) (n : Nat) :
    between events 0 (n + 1) = between events 0 n ++ events n := by
  simp [between, List.range'_concat]

theorem run_course_from {body : Nat → σ → Pass ε σ β} {state : Nat → σ}
    {events : Nat → List ε} {stays : Nat → Prop} {bound : Nat}
    (hc : Course body state events stays bound) (fuel i : Nat) (hb : i + fuel = bound) :
    ∃ n ≤ fuel, (∀ j, i ≤ j → j < i + n → stays j) ∧
      ((n = fuel ∧ run body fuel i (state i) = (between events i n, .inl (state (i + n)))) ∨
       (n < fuel ∧ ¬ stays (i + n) ∧ ∃ evs b, body (i + n) (state (i + n)) = .exit evs b ∧
          run body fuel i (state i) = (between events i n ++ evs, .inr b))) := by
  induction fuel generalizing i with
  | zero =>
    refine ⟨0, Nat.le_refl _, fun j h1 h2 => by omega, .inl ⟨rfl, ?_⟩⟩
    simp [run, between]
  | succ fuel ih =>
    by_cases hs : stays i
    · obtain ⟨n, hn, hstay, hend⟩ := ih (i + 1) (by omega)
      -- The pass goes on: the rest is the course from `i + 1`.
      have hpass := hc.again i (by omega) hs
      have hidx : i + 1 + n = i + (n + 1) := by omega
      refine ⟨n + 1, by omega, ?_, ?_⟩
      · intro j h1 h2
        by_cases hji : j = i
        · exact hji ▸ hs
        · exact hstay j (by omega) (by omega)
      · rw [hidx] at hend
        rcases hend with ⟨hn', hrun⟩ | ⟨hlt, hns, evs, b, hexit, hrun⟩
        · refine .inl ⟨by omega, ?_⟩
          simp only [run, hpass, hrun, between_succ]
        · refine .inr ⟨by omega, hns, evs, b, hexit, ?_⟩
          simp only [run, hpass, hrun, between_succ, List.append_assoc]
    · obtain ⟨evs, b, hpass⟩ := hc.leaves i (by omega) hs
      refine ⟨0, Nat.zero_le _, fun j h1 h2 => by omega,
        .inr ⟨Nat.succ_pos _, hs, evs, b, hpass, ?_⟩⟩
      simp [run, hpass, between]

/-- The whole loop: `n` full passes, then the end of the range or an exit. -/
theorem run_course {body : Nat → σ → Pass ε σ β} {state : Nat → σ} {events : Nat → List ε}
    {stays : Nat → Prop} {bound : Nat} (hc : Course body state events stays bound) :
    ∃ n ≤ bound, (∀ j < n, stays j) ∧
      ((n = bound ∧ run body bound 0 (state 0) = (between events 0 n, .inl (state n))) ∨
       (n < bound ∧ ¬ stays n ∧ ∃ evs b, body n (state n) = .exit evs b ∧
          run body bound 0 (state 0) = (between events 0 n ++ evs, .inr b))) := by
  obtain ⟨n, hn, hstay, hend⟩ := run_course_from hc bound 0 (Nat.zero_add _)
  simp only [Nat.zero_add] at hend
  exact ⟨n, hn, fun j hj => hstay j (Nat.zero_le _) (by omega), hend⟩

/-! ## A loop on its way -/

/-- The loop that started in `start` is at the top of pass `i` in `state`, and has written
`events`. -/
def Reached (body : Nat → σ → Pass ε σ β) (bound : Nat) (start : σ) (i : Nat) (state : σ)
    (events : List ε) : Prop :=
  run body bound 0 start =
    (events ++ (run body (bound - i) i state).1, (run body (bound - i) i state).2)

variable {body : Nat → σ → Pass ε σ β} {bound : Nat} {start : σ}

theorem Reached.here : Reached body bound start 0 start [] := rfl

/-- One pass fewer is left after pass `i`. -/
theorem left_succ {i : Nat} (below : i < bound) : bound - i = (bound - (i + 1)) + 1 := by omega

theorem Reached.again {i : Nat} {state state' : σ} {events more : List ε}
    (reached : Reached body bound start i state events) (below : i < bound)
    (goesOn : body i state = .again more state') :
    Reached body bound start (i + 1) state' (events ++ more) := by
  unfold Reached at reached ⊢
  rw [reached, left_succ below]
  simp only [run, goesOn, List.append_assoc]

theorem Reached.exit {i : Nat} {state : σ} {events more : List ε} {value : β}
    (reached : Reached body bound start i state events) (below : i < bound)
    (leaves : body i state = .exit more value) :
    run body bound 0 start = (events ++ more, .inr value) := by
  unfold Reached at reached
  rw [reached, left_succ below]
  simp only [run, leaves]

theorem Reached.exhausted {i : Nat} {state : σ} {events : List ε}
    (reached : Reached body bound start i state events) (all : bound ≤ i) :
    run body bound 0 start = (events, .inl state) := by
  unfold Reached at reached
  rw [reached, Nat.sub_eq_zero_of_le all]
  simp only [run, List.append_nil]

/-- What has been written stays. -/
theorem Reached.written {i : Nat} {state : σ} {events : List ε}
    (reached : Reached body bound start i state events) :
    ∃ more, (run body bound 0 start).1 = events ++ more := by
  unfold Reached at reached
  exact ⟨_, by rw [reached]⟩

/-- A pass that has begun: what it writes whether it goes on or leaves is written next. -/
theorem Reached.begun {i : Nat} {state : σ} {events first : List ε}
    (reached : Reached body bound start i state events) (below : i < bound)
    (begins : (∃ more state', body i state = .again (first ++ more) state') ∨
      ∃ more value, body i state = .exit (first ++ more) value) :
    ∃ more, (run body bound 0 start).1 = events ++ first ++ more := by
  rcases begins with ⟨more, state', goesOn⟩ | ⟨more, value, leaves⟩
  · obtain ⟨rest, written⟩ := (reached.again below goesOn).written
    exact ⟨more ++ rest, by rw [written]; simp only [List.append_assoc]⟩
  · exact ⟨more, by rw [reached.exit below leaves]; exact (List.append_assoc _ _ _).symm⟩

end RangeLoop
