import GrpcEgress.Lib.Text

/-!
# What the searches find

The operations on text, as relations between the text and its parts:
1. `contains_iff`: a text contains another;
2. `afterFirst_sound`, `afterFirst_complete`: the text after the first occurrence of a tag
   whose first character is not in it again, so that two occurrences cannot overlap;
3. `beforeFirst_eq_some`: the text before the first occurrence of a character;
4. `parseU64_eq_some`: an unsigned number is a numeral with a plus sign or without.
-/

namespace Text

theorem contains_iff {needle hay : List Char} : contains needle hay = true ↔ needle <:+: hay := by
  induction hay with
  | nil => rw [contains, List.isEmpty_iff, List.infix_nil]
  | cons c cs ih =>
    rw [contains, Bool.or_eq_true, ih, List.isPrefixOf_iff_prefix, List.infix_cons_iff]

theorem afterFirst_eq_none {tag hay : List Char} : afterFirst tag hay = none ↔ ¬ tag <:+: hay := by
  induction hay with
  | nil =>
    rw [afterFirst, List.infix_nil]
    cases tag <;> simp
  | cons c cs ih =>
    rw [afterFirst, List.infix_cons_iff, not_or, ← ih, ← List.isPrefixOf_iff_prefix]
    split
    · next starts => simp [starts]
    · next other => exact (and_iff_right other).symm

/-- What is found is the first occurrence. -/
theorem afterFirst_sound {tag hay rest : List Char} (found : afterFirst tag hay = some rest) :
    ∃ before, hay = before ++ tag ++ rest ∧ (tag ≠ [] → ¬ tag <:+: before) := by
  induction hay with
  | nil =>
    rw [afterFirst] at found
    split at found
    · next empty =>
      cases found
      rw [List.isEmpty_iff.mp empty]
      exact ⟨[], rfl, fun none => absurd rfl none⟩
    · cases found
  | cons c cs ih =>
    rw [afterFirst] at found
    split at found
    · next starts =>
      cases found
      obtain ⟨rest, whole⟩ := List.isPrefixOf_iff_prefix.mp starts
      refine ⟨[], ?_, fun filled none => filled (List.infix_nil.mp none)⟩
      rw [← whole, List.drop_left]
      rfl
    · next other =>
      obtain ⟨before, rfl, first⟩ := ih found
      refine ⟨c :: before, rfl, fun filled within => ?_⟩
      rcases List.infix_cons_iff.mp within with starts | later
      · refine other (List.isPrefixOf_iff_prefix.mpr (starts.trans ?_))
        rw [List.append_assoc, ← List.cons_append]
        exact List.prefix_append _ _
      · exact first filled later

/-- A tag whose first character is not in it again does not start in a text and end in the
tag behind it. -/
theorem not_prefix_of_before {c : Char} {tag before : List Char} (fresh : c ∉ tag)
    (filled : before ≠ []) (first : ¬ (c :: tag) <:+: before) (rest : List Char) :
    ¬ (c :: tag) <+: before ++ ((c :: tag) ++ rest) := by
  rintro ⟨tail, whole⟩
  rcases List.append_eq_append_iff.mp whole with ⟨between, rfl, -⟩ | ⟨overlap, split, behind⟩
  · exact first (List.prefix_append _ _).isInfix
  · cases before with
    | nil => exact filled rfl
    | cons b bs =>
      obtain ⟨rfl, rfl⟩ := List.cons_eq_cons.mp split
      cases overlap with
      | nil =>
        have whole : _ :: (bs ++ []) = _ :: bs := congrArg (c :: ·) (List.append_nil bs)
        exact first (whole ▸ List.infix_refl _)
      | cons d ds =>
        obtain ⟨rfl, -⟩ := List.cons_eq_cons.mp behind
        exact fresh (List.mem_append_right bs List.mem_cons_self)

/-- The first occurrence is found. -/
theorem afterFirst_complete {c : Char} {tag before : List Char} (fresh : c ∉ tag)
    (first : ¬ (c :: tag) <:+: before) (rest : List Char) :
    afterFirst (c :: tag) (before ++ (c :: tag) ++ rest) = some rest := by
  rw [List.append_assoc]
  induction before with
  | nil =>
    have starts : (c :: tag) <+: (c :: tag) ++ rest := List.prefix_append _ _
    exact (if_pos (List.isPrefixOf_iff_prefix.mpr starts)).trans
      (congrArg some (@List.drop_left _ (c :: tag) rest))
  | cons b bs ih =>
    have later := not_prefix_of_before fresh (List.cons_ne_nil b bs) first rest
    refine (if_neg fun starts => later (List.isPrefixOf_iff_prefix.mp starts)).trans (ih ?_)
    exact fun within => first (List.infix_cons within)

theorem beforeFirst_eq_some {stop : Char} {hay front : List Char} :
    beforeFirst stop hay = some front ↔ stop ∉ front ∧ ∃ after, hay = front ++ stop :: after := by
  induction hay generalizing front with
  | nil => simp [beforeFirst]
  | cons c cs ih =>
    rw [beforeFirst]
    split
    · next found =>
      subst found
      constructor
      · intro empty
        cases empty
        exact ⟨List.not_mem_nil, cs, rfl⟩
      · rintro ⟨unmet, after, whole⟩
        cases front with
        | nil => rfl
        | cons d ds =>
          obtain ⟨rfl, -⟩ := List.cons_eq_cons.mp whole
          exact absurd List.mem_cons_self unmet
    · next other =>
      rw [Option.map_eq_some_iff]
      constructor
      · rintro ⟨ds, found, rfl⟩
        obtain ⟨unmet, after, rfl⟩ := ih.mp found
        exact ⟨List.not_mem_cons_of_ne_of_not_mem (Ne.symm other) unmet, after, rfl⟩
      · rintro ⟨unmet, after, whole⟩
        cases front with
        | nil => exact absurd (List.cons_eq_cons.mp whole).1 other
        | cons d ds =>
          obtain ⟨rfl, rfl⟩ := List.cons_eq_cons.mp whole
          exact ⟨ds, ih.mpr ⟨mt (List.mem_cons_of_mem c) unmet, after, rfl⟩, rfl⟩

/-! ## Numbers -/

/-- Digits that spell `n`, with as many leading zeros as there are. -/
def IsNumeral (digits : List Char) (n : Nat) : Prop :=
  digits ≠ [] ∧ (∀ c ∈ digits, c.isDigit = true) ∧ Nat.ofDigitChars 10 digits 0 = n

theorem le_ofDigitChars (digits : List Char) (acc : Nat) :
    acc ≤ Nat.ofDigitChars 10 digits acc := by
  induction digits generalizing acc with
  | nil => exact Nat.le_refl acc
  | cons c cs ih =>
    rw [Nat.ofDigitChars_cons]
    refine Nat.le_trans ?_ (ih _)
    exact Nat.le_trans (Nat.le_mul_of_pos_left acc (by decide)) (Nat.le_add_right _ _)

theorem readDigits_eq_some {digits : List Char} {acc n : Nat} (fits : acc < UInt64.size) :
    readDigits digits acc = some n ↔
      (∀ c ∈ digits, c.isDigit = true) ∧ Nat.ofDigitChars 10 digits acc = n ∧ n < UInt64.size := by
  induction digits generalizing acc with
  | nil =>
    rw [readDigits, Nat.ofDigitChars_nil, Option.some.injEq]
    constructor
    · rintro rfl
      exact ⟨List.forall_mem_nil _, rfl, fits⟩
    · exact fun found => found.2.1
  | cons c cs ih =>
    rw [readDigits, Nat.ofDigitChars_cons, List.forall_mem_cons, Nat.mul_comm 10 acc]
    split
    · next digit =>
      simp only
      split
      · next small =>
        rw [ih small, and_iff_right digit]
      · next overflow =>
        simp only [reduceCtorEq, false_iff]
        rintro ⟨-, rfl, small⟩
        exact overflow (Nat.lt_of_le_of_lt (le_ofDigitChars cs _) small)
    · next other =>
      simp only [reduceCtorEq, other, false_and]

/-- What is read as a number: a numeral below `2 ^ 64`, with a plus sign or without. -/
theorem parseU64_eq_some {cs : List Char} {n : UInt64} :
    parseU64 cs = some n ↔
      ∃ digits, (cs = digits ∨ cs = '+' :: digits) ∧ IsNumeral digits n.toNat := by
  have spelled : ∀ digits : List Char,
      (if digits.isEmpty then none else (readDigits digits 0).map UInt64.ofNat) = some n ↔
        IsNumeral digits n.toNat := by
    intro digits
    split
    · next empty =>
      simp only [reduceCtorEq, false_iff]
      exact fun numeral => numeral.1 (List.isEmpty_iff.mp empty)
    · next filled =>
      rw [Option.map_eq_some_iff]
      constructor
      · rintro ⟨v, read, rfl⟩
        obtain ⟨decimal, value, small⟩ := (readDigits_eq_some (by decide)).mp read
        refine ⟨mt List.isEmpty_iff.mpr filled, decimal, ?_⟩
        rw [value, UInt64.toNat_ofNat_of_lt' small]
      · rintro ⟨-, decimal, value⟩
        exact ⟨n.toNat, (readDigits_eq_some (by decide)).mpr ⟨decimal, value, n.toNat_lt⟩,
          UInt64.ofNat_toNat⟩
  unfold parseU64
  simp only
  rw [spelled]
  split
  · next rest =>
    constructor
    · exact fun numeral => ⟨rest, .inr rfl, numeral⟩
    · rintro ⟨digits, whole | whole, numeral⟩
      · subst whole
        exact absurd (numeral.2.1 '+' List.mem_cons_self) (by decide)
      · exact (List.cons_eq_cons.mp whole).2 ▸ numeral
  · next unsigned =>
    constructor
    · exact fun numeral => ⟨cs, .inl rfl, numeral⟩
    · rintro ⟨digits, rfl | rfl, numeral⟩
      · exact numeral
      · exact absurd rfl (unsigned digits)

/-- A number as it is printed. -/
theorem isNumeral_toDigits (n : Nat) : IsNumeral (Nat.toDigits 10 n) n :=
  ⟨Nat.toDigits_ne_nil, fun _ member => Nat.isDigit_of_mem_toDigits (by decide) (by decide) member,
    Nat.ofDigitChars_ten_toDigits⟩

end Text
