import Mathlib.Algebra.Group.Nat.Defs

/-!
# Base-128 varints

A number as groups of seven bits, lowest first, a byte for each group. Every byte but the
last has the continuation bit. `IsVarint bytes v` says that `bytes` is such a form of the
64-bit number `v`: ten bytes at most, of which the tenth can hold one bit only. High groups
that are zero are allowed, so a number has several forms.

Results:
1. `IsVarint.tenth`: the tenth byte is at most 1;
2. `IsVarint.unique`: of all the forms of numbers, one at most is the start of some bytes;
3. `or_shift` and `lossless_of_fits`: a group that is or-ed in above the bits so far is added
   to them, and no bit of it is lost;
4. `isVarint_singleton` and `IsVarint.cons`: how a writer builds a form, lowest group first.
-/

namespace Varint

/-- The continuation bit is set: another byte follows. -/
def Continues (b : UInt8) : Prop := 128 ≤ b.toNat

instance (b : UInt8) : Decidable (Continues b) := inferInstanceAs (Decidable (_ ≤ _))

/-- The number that the groups of these bytes stand for, lowest first. -/
def number : List UInt8 → Nat
  | [] => 0
  | b :: bs => b.toNat % 128 + 128 * number bs

/-- `bytes` is a form of `v`. -/
structure IsVarint (bytes : List UInt8) (v : UInt64) : Prop where
  ended : ∃ front last, bytes = front ++ [last] ∧ (∀ b ∈ front, Continues b) ∧ ¬ Continues last
  short : bytes.length ≤ 10
  value : number bytes = v.toNat

theorem number_append (bs cs : List UInt8) :
    number (bs ++ cs) = number bs + 128 ^ bs.length * number cs := by
  induction bs with
  | nil => simp [number]
  | cons b bs ih =>
    show b.toNat % 128 + 128 * number (bs ++ cs) = _
    rw [ih, number, List.length_cons, Nat.pow_succ', Nat.mul_add, Nat.add_assoc, Nat.mul_assoc]

theorem number_singleton (b : UInt8) : number [b] = b.toNat % 128 := Nat.add_zero _

theorem number_lt (bs : List UInt8) : number bs < 128 ^ bs.length := by
  induction bs with
  | nil => decide
  | cons b bs ih =>
    rw [number, List.length_cons, Nat.pow_succ]
    have low : b.toNat % 128 < 128 := Nat.mod_lt _ (by decide)
    omega

theorem IsVarint.length_pos {bytes : List UInt8} {v : UInt64} (h : IsVarint bytes v) :
    0 < bytes.length := by
  obtain ⟨front, last, rfl, -⟩ := h.ended
  rw [List.length_append]
  exact Nat.succ_pos _

/-- Nine groups of seven bits leave one bit of 64 to the tenth. -/
theorem IsVarint.tenth {bytes : List UInt8} {v : UInt64} {b : UInt8} (h : IsVarint bytes v)
    (ten : bytes[9]? = some b) : b.toNat ≤ 1 := by
  obtain ⟨front, last, rfl, -, stops⟩ := h.ended
  have nine : front.length = 9 := by
    have short := h.short
    have inside := (List.getElem?_eq_some_iff.mp ten).1
    rw [List.length_append, List.length_singleton] at short inside
    omega
  have same : last = b := by
    rw [List.getElem?_append_right (Nat.le_of_eq nine), nine] at ten
    exact Option.some.inj ten
  subst same
  have whole := h.value
  rw [number_append, number_singleton, nine] at whole
  have fits := v.toNat_lt
  have low : last.toNat % 128 = last.toNat := Nat.mod_eq_of_lt (Nat.not_le.mp stops)
  omega

/-! ## No form is the start of another -/

theorem getElem?_last {pre bytes : List UInt8} {last : UInt8} (read : pre ++ [last] <+: bytes) :
    bytes[pre.length]? = some last := by
  obtain ⟨after, rfl⟩ := read
  rw [List.append_assoc, List.getElem?_append_right (Nat.le_refl _), Nat.sub_self]
  rfl

theorem getElem?_before {pre bytes : List UInt8} {last : UInt8} (read : pre ++ [last] <+: bytes)
    {j : Nat} (inside : j < pre.length) : bytes[j]? = some pre[j] := by
  obtain ⟨after, rfl⟩ := read
  rw [List.append_assoc, List.getElem?_append_left inside]
  exact List.getElem?_eq_getElem inside

/-- A form ends where a byte does not continue. -/
theorem length_le_of_stops {bytes pre qre : List UInt8} {last end' : UInt8}
    (stops : ¬ Continues last) (read : pre ++ [last] <+: bytes)
    (continued : ∀ b ∈ qre, Continues b) (other : qre ++ [end'] <+: bytes) :
    qre.length ≤ pre.length := by
  refine Nat.not_lt.mp fun longer => stops ?_
  have same := (getElem?_last read).symm.trans (getElem?_before other longer)
  cases same
  exact continued _ (List.getElem_mem longer)

theorem IsVarint.unique {bytes front back : List UInt8} {v w : UInt64} (one : IsVarint front v)
    (two : IsVarint back w) (read : front <+: bytes) (other : back <+: bytes) :
    front = back ∧ v = w := by
  have same : front = back := by
    obtain ⟨pre, last, rfl, continued, stops⟩ := one.ended
    obtain ⟨qre, end', rfl, continued', stops'⟩ := two.ended
    have length := Nat.le_antisymm (length_le_of_stops stops' other continued read)
      (length_le_of_stops stops read continued' other)
    rw [List.prefix_iff_eq_take.mp read, List.prefix_iff_eq_take.mp other]
    simp only [List.length_append, length, List.length_singleton]
  refine ⟨same, UInt64.toNat_inj.mp ?_⟩
  rw [← one.value, ← two.value, same]

/-! ## Machine words -/

/-- Every bit of `group` can be had back after the shift. -/
def Lossless (group : UInt64) (shift : Nat) : Prop :=
  shift < 64 ∧ (group <<< UInt64.ofNat shift) >>> UInt64.ofNat shift = group

instance (group : UInt64) (shift : Nat) : Decidable (Lossless group shift) :=
  inferInstanceAs (Decidable (_ ∧ _))

theorem toNat_ofNat {n : Nat} (small : n < 2 ^ 64) : (UInt64.ofNat n).toNat = n := by
  rw [UInt64.toNat_ofNat']
  exact Nat.mod_eq_of_lt small

theorem toNat_shiftLeft {group : UInt64} {shift : Nat} (inside : shift < 64)
    (fits : group.toNat * 2 ^ shift < 2 ^ 64) :
    (group <<< UInt64.ofNat shift).toNat = group.toNat * 2 ^ shift := by
  rw [UInt64.toNat_shiftLeft, toNat_ofNat (Nat.lt_trans inside (by decide)),
    Nat.mod_eq_of_lt inside, Nat.shiftLeft_eq, Nat.mod_eq_of_lt fits]

theorem lossless_of_fits {group : UInt64} {shift : Nat} (inside : shift < 64)
    (fits : group.toNat * 2 ^ shift < 2 ^ 64) : Lossless group shift := by
  refine ⟨inside, UInt64.toNat_inj.mp ?_⟩
  rw [UInt64.toNat_shiftRight, toNat_shiftLeft inside fits,
    toNat_ofNat (Nat.lt_trans inside (by decide)), Nat.mod_eq_of_lt inside,
    Nat.shiftRight_eq_div_pow, Nat.mul_div_cancel _ (Nat.two_pow_pos shift)]

/-- A group above the bits of `value` is added when it is or-ed in. -/
theorem or_shift {value group : UInt64} {shift : Nat} (low : value.toNat < 2 ^ shift)
    (inside : shift < 64) (fits : group.toNat * 2 ^ shift < 2 ^ 64) :
    (value ||| group <<< UInt64.ofNat shift).toNat = value.toNat + 2 ^ shift * group.toNat := by
  rw [UInt64.toNat_or, toNat_shiftLeft inside fits, Nat.mul_comm, Nat.or_comm,
    ← Nat.two_pow_add_eq_or_of_lt low, Nat.add_comm]

/-- The seven bits of a byte, as a 64-bit number. -/
def group (b : UInt8) : UInt64 := (b &&& 0x7f).toUInt64

theorem toNat_group (b : UInt8) : (group b).toNat = b.toNat % 128 := by
  show (b &&& 0x7f).toUInt64.toNat = _
  rw [UInt8.toNat_toUInt64, UInt8.toNat_and]
  exact Nat.and_two_pow_sub_one_eq_mod b.toNat 7

/-- Ten groups of seven bits, the tenth of which holds one bit only, fit 64 bits. -/
theorem group_fits {b : UInt8} {i : Nat} (inside : i < 10) (tenth : i = 9 → b.toNat ≤ 1) :
    (group b).toNat * 2 ^ (i * 7) < 2 ^ 64 := by
  rw [toNat_group]
  rcases Nat.lt_or_ge i 9 with below | last
  · have low : b.toNat % 128 < 2 ^ 7 := Nat.mod_lt _ (by decide)
    have shift : 2 ^ (i * 7) ≤ 2 ^ 56 := Nat.pow_le_pow_right (by decide) (by omega)
    calc b.toNat % 128 * 2 ^ (i * 7)
      _ ≤ 2 ^ 7 * 2 ^ 56 := Nat.mul_le_mul (Nat.le_of_lt low) shift
      _ < 2 ^ 64 := by decide
  · have nine : i = 9 := by omega
    subst nine
    have one : b.toNat % 128 ≤ 1 := Nat.le_trans (Nat.mod_le _ _) (tenth rfl)
    calc b.toNat % 128 * 2 ^ (9 * 7)
      _ ≤ 1 * 2 ^ 63 := Nat.mul_le_mul_right _ one
      _ < 2 ^ 64 := by decide

theorem number_lt_shift (front : List UInt8) : number front < 2 ^ (front.length * 7) := by
  have power : 128 ^ front.length = 2 ^ (front.length * 7) := by rw [Nat.mul_comm, Nat.pow_mul]
  exact power ▸ number_lt front

theorem number_concat (front : List UInt8) (b : UInt8) :
    number (front ++ [b]) = number front + 2 ^ (front.length * 7) * (group b).toNat := by
  rw [number_append, number_singleton, toNat_group, Nat.mul_comm front.length, Nat.pow_mul]

/-- The groups of ten bytes fit 64 bits when the tenth is at most 1. -/
theorem number_concat_lt {front : List UInt8} {b : UInt8} (inside : front.length < 10)
    (tenth : front.length = 9 → b.toNat ≤ 1) : number (front ++ [b]) < 2 ^ 64 := by
  rcases Nat.lt_or_ge front.length 9 with below | last
  · refine Nat.lt_of_lt_of_le (number_lt_shift _) (Nat.pow_le_pow_right (by decide) ?_)
    rw [List.length_append, List.length_singleton]
    omega
  · have nine : front.length = 9 := Nat.le_antisymm (Nat.le_of_lt_succ inside) last
    have low := number_lt_shift front
    have one : (group b).toNat ≤ 1 := by
      rw [toNat_group]
      exact Nat.le_trans (Nat.mod_le _ _) (tenth nine)
    rw [number_concat]
    rw [nine] at low ⊢
    omega

/-- The group of the next byte is added to the groups before it. -/
theorem or_group {front : List UInt8} {b : UInt8} (inside : front.length < 10)
    (tenth : front.length = 9 → b.toNat ≤ 1) :
    UInt64.ofNat (number front) ||| group b <<< UInt64.ofNat (front.length * 7) =
      UInt64.ofNat (number (front ++ [b])) := by
  have low := number_lt_shift front
  have shift : front.length * 7 < 64 := by omega
  have value : (UInt64.ofNat (number front)).toNat = number front :=
    toNat_ofNat (Nat.lt_trans low (Nat.pow_lt_pow_right (by decide) shift))
  refine UInt64.toNat_inj.mp ?_
  rw [or_shift (value.symm ▸ low) shift (group_fits inside tenth), value, ← number_concat,
    toNat_ofNat (number_concat_lt inside tenth)]

/-- The highest of eight bits. -/
theorem and_highest : ∀ n : Fin 256, n.val &&& 128 = n.val / 128 * 128 := by decide +kernel

theorem continues_iff (b : UInt8) : (b &&& 0x80 == 0) = false ↔ Continues b := by
  have bit : (b &&& 0x80).toNat = b.toNat / 128 * 128 := by
    rw [UInt8.toNat_and]
    exact and_highest ⟨b.toNat, b.toNat_lt⟩
  rw [beq_eq_false_iff_ne, Ne, ← UInt8.toNat_inj, bit]
  show ¬ b.toNat / 128 * 128 = 0 ↔ 128 ≤ b.toNat
  omega

/-! ## The shortest form -/

/-- The low seven bits, in a byte that does not continue. -/
theorem toNat_low (v : UInt64) : (v.toUInt8 &&& 0x7f).toNat = v.toNat % 128 := by
  rw [UInt8.toNat_and, UInt64.toNat_toUInt8]
  exact (Nat.and_two_pow_sub_one_eq_mod _ 7).trans (Nat.mod_mod_of_dvd _ (by decide))

/-- The low seven bits, in a byte that continues. -/
theorem toNat_low_continued (v : UInt64) :
    ((v.toUInt8 &&& 0x7f) ||| 0x80).toNat = v.toNat % 128 + 128 := by
  have low : (v.toUInt8 &&& 0x7f).toNat < 2 ^ 7 := by
    rw [toNat_low]
    exact Nat.mod_lt _ (by decide)
  have added := Nat.two_pow_add_eq_or_of_lt low 1
  rw [UInt8.toNat_or, Nat.or_comm, ← toNat_low v, Nat.add_comm]
  exact added.symm

theorem toNat_shiftRight_seven (v : UInt64) : (v >>> 7).toNat = v.toNat / 128 := by
  rw [UInt64.toNat_shiftRight]
  exact Nat.shiftRight_eq_div_pow _ 7

/-- A byte that continues, in front of a form of the rest. -/
theorem IsVarint.cons {b : UInt8} {bytes : List UInt8} {v : UInt64} (more : Continues b)
    (low : b.toNat % 128 = v.toNat % 128) (short : bytes.length < 10)
    (rest : IsVarint bytes (v >>> 7)) : IsVarint (b :: bytes) v where
  ended := by
    obtain ⟨front, last, rfl, continued, stops⟩ := rest.ended
    exact ⟨b :: front, last, rfl, List.forall_mem_cons.mpr ⟨more, continued⟩, stops⟩
  short := short
  value := by
    rw [number, rest.value, toNat_shiftRight_seven, low]
    exact Nat.mod_add_div _ _

/-- A number of seven bits is a form of itself. -/
theorem isVarint_singleton {v : UInt64} (small : v.toNat < 128) : IsVarint [v.toUInt8] v := by
  have same : v.toUInt8.toNat = v.toNat := by
    rw [UInt64.toNat_toUInt8]
    exact Nat.mod_eq_of_lt (Nat.lt_trans small (by decide))
  refine ⟨⟨[], v.toUInt8, rfl, nofun, ?_⟩, Nat.succ_le_succ (Nat.zero_le 9), ?_⟩
  · rw [Continues, same]
    exact Nat.not_le.mpr small
  · rw [number_singleton, same, Nat.mod_eq_of_lt small]

end Varint
