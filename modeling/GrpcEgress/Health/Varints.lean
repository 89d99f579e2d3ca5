import GrpcEgress.Health.ProtoCodec

/-!
# Varints, written and read

Three loops agree on the form of a varint: the writer's, the one that computes its length
and the reader's. What is written is a form of the value in the sense of the wire format
(`isVarint_encoded`), with as many bytes as computed (`varintLen_eq`). What is read is any
such form (`reads_varint`): the ways in which the reader's loop can end are those of
`VarintEnd`, found with the closed form of its state at the top of a pass.

Result: `varints_exact`.
-/

namespace GrpcEgress

open Varint

namespace HealthProtoCodec

/-- The bytes that are pushed. -/
def encoded (value : UInt64) : List UInt8 := writeVarint [] value

theorem writeVarint_small {value : UInt64} (small : ¬ 0x80 ≤ value) (out : List UInt8) :
    writeVarint out value = out ++ [value.toUInt8] := by
  rw [writeVarint, if_neg small]

theorem writeVarint_large {value : UInt64} (more : 0x80 ≤ value) (out : List UInt8) :
    writeVarint out value =
      writeVarint (out ++ [(value.toUInt8 &&& 0x7f) ||| 0x80]) (value >>> 7) := by
  rw [writeVarint, if_pos more]

/-- What is in the buffer stays in front. -/
theorem writeVarint_eq (out : List UInt8) (value : UInt64) :
    writeVarint out value = out ++ encoded value := by
  unfold encoded
  induction h : value.toNat using Nat.strongRecOn generalizing out value with
  | ind n ih =>
    subst h
    by_cases more : 0x80 ≤ value
    · rw [writeVarint_large more, writeVarint_large more [], ih _ (shiftRight_lt more) _ _ rfl,
        ih _ (shiftRight_lt more) ([] ++ _) _ rfl, List.nil_append, List.append_assoc]
    · rw [writeVarint_small more, writeVarint_small more, List.nil_append]

theorem encoded_large {value : UInt64} (more : 0x80 ≤ value) :
    encoded value = ((value.toUInt8 &&& 0x7f) ||| 0x80) :: encoded (value >>> 7) := by
  rw [encoded, writeVarint_large more, writeVarint_eq]
  rfl

theorem encoded_small {value : UInt64} (small : ¬ 0x80 ≤ value) :
    encoded value = [value.toUInt8] := by
  rw [encoded, writeVarint_small small, List.nil_append]

theorem varintLenFrom_eq (length : Nat) (value : UInt64) :
    varintLenFrom length value + 1 = length + (encoded value).length := by
  induction h : value.toNat using Nat.strongRecOn generalizing length value with
  | ind n ih =>
    subst h
    unfold varintLenFrom
    by_cases more : 0x80 ≤ value
    · rw [if_pos more, ih _ (shiftRight_lt more) _ _ rfl, encoded_large more, List.length_cons]
      omega
    · rw [if_neg more, encoded_small more, List.length_singleton]

theorem varintLen_eq (value : UInt64) : varintLen value = (encoded value).length := by
  have counted := varintLenFrom_eq 1 value
  rw [Nat.add_comm 1] at counted
  exact Nat.succ.inj counted

/-- Each byte takes seven bits. -/
theorem encoded_length_le (n : Nat) {value : UInt64} (small : value.toNat < 128 ^ (n + 1)) :
    (encoded value).length ≤ n + 1 := by
  induction n generalizing value with
  | zero =>
    have last : ¬ 0x80 ≤ value := by
      rw [UInt64.le_iff_toNat_le]
      exact Nat.not_le.mpr small
    rw [encoded_small last]
    exact Nat.le_refl 1
  | succ n ih =>
    by_cases more : 0x80 ≤ value
    · rw [encoded_large more, List.length_cons]
      refine Nat.succ_le_succ (ih ?_)
      rw [toNat_shiftRight_seven]
      exact Nat.div_lt_of_lt_mul (Nat.mul_comm 128 _ ▸ small)
    · rw [encoded_small more]
      exact Nat.succ_le_succ (Nat.zero_le _)

theorem encoded_length_le_ten (value : UInt64) : (encoded value).length ≤ 10 :=
  encoded_length_le 9 (Nat.lt_trans value.toNat_lt (by decide))

/-- What is written is a form of the value. -/
theorem isVarint_encoded (value : UInt64) : IsVarint (encoded value) value := by
  induction h : value.toNat using Nat.strongRecOn generalizing value with
  | ind n ih =>
    subst h
    by_cases more : 0x80 ≤ value
    · rw [encoded_large more]
      refine .cons ?_ ?_ ?_ (ih _ (shiftRight_lt more) _ rfl)
      · rw [Continues, toNat_low_continued]
        exact Nat.le_add_left _ _
      · rw [toNat_low_continued, Nat.add_mod_right, Nat.mod_mod]
      · refine Nat.lt_succ_of_le (encoded_length_le 8 ?_)
        rw [toNat_shiftRight_seven]
        exact Nat.div_lt_of_lt_mul (Nat.lt_trans value.toNat_lt (by decide))
    · rw [encoded_small more]
      exact isVarint_singleton (Nat.not_le.mp ((not_congr UInt64.le_iff_toNat_le).mp more))

end HealthProtoCodec

namespace HealthProtoReader

open Cursor

/-- The state at the top of a pass: the value of the bytes before it. -/
def varintState (self : HealthProtoReader) (i : Nat) : UInt64 × HealthProtoReader :=
  (UInt64.ofNat (number ((rest self).take i)), advance i self)

/-- The shift of a pass that finds a byte. -/
def varintShift (self : HealthProtoReader) (i : Nat) : List (UInt64 × Nat) :=
  match (rest self)[i]? with
  | some b => [(group b, i * 7)]
  | none => []

/-- The pass finds a byte of the number after which another follows. -/
def VarintStays (self : HealthProtoReader) (i : Nat) : Prop :=
  ∃ b, (rest self)[i]? = some b ∧ Continues b ∧ (i = 9 → b.toNat ≤ 1)

section Pass

variable {self : HealthProtoReader} {i : Nat} {b : UInt8}

theorem take_succ (here : (rest self)[i]? = some b) :
    (rest self).take (i + 1) = (rest self).take i ++ [b] := by
  rw [List.take_add_one, here]
  rfl

theorem length_take (here : (rest self)[i]? = some b) : ((rest self).take i).length = i :=
  List.length_take_of_le (Nat.le_of_lt (List.getElem?_eq_some_iff.mp here).1)

/-- The byte that a pass looks at. -/
theorem next_byte (self : HealthProtoReader) (i : Nat) :
    (varintState self i).2.bytes[(varintState self i).2.offset]? = (rest self)[i]? :=
  List.getElem?_drop.symm

/-- The group of a byte is added to the groups before it. -/
theorem accumulate (here : (rest self)[i]? = some b) (inside : i < 10)
    (tenth : i = 9 → b.toNat ≤ 1) :
    (varintState self i).1 ||| (b &&& 0x7f).toUInt64 <<< UInt64.ofNat (i * 7) =
      (varintState self (i + 1)).1 := by
  have filled := length_take here
  have added := @or_group ((rest self).take i) b (filled.symm ▸ inside) (filled.symm ▸ tenth)
  rw [filled, ← take_succ here] at added
  exact added

/-- The bytes end. -/
theorem varintPass_end (none : (rest self)[i]? = none) :
    varintPass i (varintState self i) =
      .exit [] (.error (self.error "truncated protobuf varint") (advance i self)) := by
  have byte := (next_byte self i).trans none
  simp only [varintPass, byte]
  rfl

/-- The tenth byte holds more than one bit. -/
theorem varintPass_overflow (here : (rest self)[9]? = some b) (large : 1 < b.toNat) :
    varintPass 9 (varintState self 9) =
      .exit [] (.error (self.error "protobuf varint overflows 64 bits") (advance 10 self)) := by
  have byte := (next_byte self 9).trans here
  simp only [varintPass, byte]
  rw [if_pos ⟨trivial, UInt8.lt_iff_toNat_lt.mpr large⟩]
  rfl

/-- A byte of the number: it is the last one, or another follows. -/
theorem varintPass_byte (here : (rest self)[i]? = some b) (inside : i < 10)
    (tenth : i = 9 → b.toNat ≤ 1) :
    varintPass i (varintState self i) =
      if Continues b then .again (varintShift self i) (varintState self (i + 1))
      else .exit (varintShift self i)
        (.ok (varintState self (i + 1)).1 (advance (i + 1) self)) := by
  have byte := (next_byte self i).trans here
  have fits : ¬ (i = 9 ∧ 1 < b) := fun ⟨nine, large⟩ =>
    Nat.not_lt.mpr (tenth nine) (UInt8.lt_iff_toNat_lt.mp large)
  have added := accumulate here inside tenth
  have shifted : varintShift self i = [(group b, i * 7)] := by rw [varintShift, here]
  simp only [varintPass, byte]
  rw [if_neg fits, shifted, added]
  by_cases more : Continues b
  · rw [(continues_iff b).mpr more, if_pos more]
    rfl
  · have last : (b &&& 0x80 == 0) = true := by
      rw [← Bool.not_eq_false, continues_iff]
      exact more
    rw [last, if_neg more]
    rfl

/-- How a loop that has read `n` bytes ends in its next pass: with the shifts that the pass
makes, and the outcome. -/
inductive VarintEnd (self : HealthProtoReader) (n : Nat) :
    List (UInt64 × Nat) → EStateM.Result DecodeError HealthProtoReader UInt64 → Prop
  | truncated : (rest self)[n]? = none → VarintEnd self n []
      (.error (self.error "truncated protobuf varint") (advance n self))
  | overflow {b : UInt8} : n = 9 → (rest self)[n]? = some b → 1 < b.toNat → VarintEnd self n []
      (.error (self.error "protobuf varint overflows 64 bits") (advance (n + 1) self))
  | last {b : UInt8} : (rest self)[n]? = some b → (n = 9 → b.toNat ≤ 1) → ¬ Continues b →
      VarintEnd self n (varintShift self n)
        (.ok (varintState self (n + 1)).1 (advance (n + 1) self))

theorem varintPass_leaves (inside : i < 10) (leaves : ¬ VarintStays self i) :
    ∃ shifts result, varintPass i (varintState self i) = .exit shifts result ∧
      VarintEnd self i shifts result := by
  cases here : (rest self)[i]? with
  | none => exact ⟨_, _, varintPass_end here, .truncated here⟩
  | some b =>
    by_cases tenth : i = 9 → b.toNat ≤ 1
    · have last : ¬ Continues b := fun more => leaves ⟨b, here, more, tenth⟩
      refine ⟨_, _, ?_, .last here tenth last⟩
      rw [varintPass_byte here inside tenth, if_neg last]
    · obtain ⟨rfl, large⟩ := Classical.not_imp.mp tenth
      have more := Nat.not_le.mp large
      exact ⟨_, _, varintPass_overflow here more, .overflow rfl here more⟩

theorem varintPass_course (self : HealthProtoReader) :
    RangeLoop.Course varintPass (varintState self) (varintShift self) (VarintStays self) 10 where
  again i inside := by
    rintro ⟨b, here, more, tenth⟩
    rw [varintPass_byte here inside tenth, if_pos more]
  leaves i inside leaves := by
    obtain ⟨shifts, result, ran, -⟩ := varintPass_leaves inside leaves
    exact ⟨shifts, result, ran⟩

/-- The loop makes some full passes, nine at most, and leaves in the next one. -/
theorem varintLoop_eq (self : HealthProtoReader) : ∃ n < 10, (∀ j < n, VarintStays self j) ∧
    ∃ shifts result, VarintEnd self n shifts result ∧
      self.varintLoop = (RangeLoop.between (varintShift self) 0 n ++ shifts, .inr result) := by
  obtain ⟨n, _, stays, ⟨rfl, -⟩ | ⟨inside, leaves, shifts, result, left, ran⟩⟩ :=
    RangeLoop.run_course (varintPass_course self)
  · -- The tenth byte cannot continue and be at most 1.
    obtain ⟨b, -, more, small⟩ := stays 9 (by decide)
    exact absurd (Nat.le_trans more (small rfl)) (by decide)
  · obtain ⟨shifts', result', left', ended⟩ := varintPass_leaves inside leaves
    rw [left] at left'
    cases left'
    exact ⟨n, inside, stays, shifts, result, ended, ran⟩

end Pass

/-- Every way in which reading a varint can end. -/
theorem readVarint_cases (self : HealthProtoReader) : ∃ n < 10,
    (∀ j < n, VarintStays self j) ∧ ∃ shifts, VarintEnd self n shifts (self.readVarint) := by
  obtain ⟨n, inside, stays, shifts, result, ended, ran⟩ := varintLoop_eq self
  have same : readVarint self = result := by rw [readVarint, ran]
  exact ⟨n, inside, stays, shifts, same ▸ ended⟩

section Read

variable {self self' : HealthProtoReader} {n : Nat}

/-- The bytes before the last pass are there. -/
theorem stays_le (stays : ∀ j < n, VarintStays self j) : n ≤ (rest self).length := by
  cases n with
  | zero => exact Nat.zero_le _
  | succ m =>
    obtain ⟨b, here, -⟩ := stays m (Nat.lt_succ_self m)
    exact (List.getElem?_eq_some_iff.mp here).1

/-- The bytes before the last pass continue. -/
theorem stays_continues (stays : ∀ j < n, VarintStays self j) :
    ∀ b ∈ (rest self).take n, Continues b := by
  intro b member
  obtain ⟨j, here⟩ := List.mem_iff_getElem?.mp member
  rw [List.getElem?_take] at here
  split at here
  · next inside =>
    obtain ⟨c, there, more, -⟩ := stays j inside
    rw [there] at here
    cases here
    exact more
  · cases here

/-- What the last pass has read is a form of what it returns. -/
theorem isVarint_take {b : UInt8} (inside : n < 10) (stays : ∀ j < n, VarintStays self j)
    (here : (rest self)[n]? = some b) (tenth : n = 9 → b.toNat ≤ 1) (last : ¬ Continues b) :
    IsVarint ((rest self).take (n + 1)) (varintState self (n + 1)).1 := by
  have filled := length_take here
  have whole := take_succ here
  refine ⟨⟨_, b, whole, stays_continues stays, last⟩, ?_, ?_⟩
  · rw [whole, List.length_append, filled]
    exact inside
  · show number _ = (UInt64.ofNat (number _)).toNat
    have fits := @number_concat_lt ((rest self).take n) b (filled.symm ▸ inside)
      (filled.symm ▸ tenth)
    rw [toNat_ofNat (whole ▸ fits)]

/-- A loop that meets a form of a number ends at its last byte. -/
theorem isVarint_ends {front : List UInt8} {v : UInt64} (read : front <+: rest self)
    (form : IsVarint front v) (stays : ∀ j < n, VarintStays self j) {shifts result}
    (ended : VarintEnd self n shifts result) :
    front = (rest self).take (n + 1) ∧ front.length = n + 1 ∧
      result = .ok (varintState self (n + 1)).1 (advance (n + 1) self) := by
  obtain ⟨pre, last, rfl, continued, stops⟩ := form.ended
  have at_last := getElem?_last read
  have before : ∀ j < pre.length, ∃ b, (rest self)[j]? = some b ∧ Continues b := fun j inside =>
    ⟨pre[j], getElem?_before read inside, continued _ (List.getElem_mem inside)⟩
  have reached : n ≤ pre.length := by
    refine Nat.not_lt.mp fun beyond => ?_
    obtain ⟨b, here, more, -⟩ := stays _ beyond
    rw [at_last] at here
    cases here
    exact stops more
  rcases Nat.lt_or_eq_of_le reached with short | rfl
  · obtain ⟨c, here, more⟩ := before n short
    cases ended with
    | truncated none => rw [none] at here; cases here
    | overflow nine _ _ =>
      have ten := form.short
      rw [List.length_append, List.length_singleton] at ten
      omega
    | last there _ stop =>
      rw [there] at here
      cases here
      exact absurd more stop
  · cases ended with
    | truncated none => rw [none] at at_last; cases at_last
    | overflow nine here large =>
      rw [at_last] at here
      cases here
      refine absurd (form.tenth ?_) (Nat.not_le.mpr large)
      exact nine ▸ getElem?_last (List.prefix_refl _)
    | last _ _ _ =>
      have whole := List.prefix_iff_eq_take.mp read
      rw [List.length_append, List.length_singleton] at whole ⊢
      exact ⟨whole, rfl, rfl⟩

/-- A form of a number in front of the reader is read. -/
theorem readVarint_of_isVarint {front : List UInt8} {v : UInt64} (read : front <+: rest self)
    (form : IsVarint front v) : self.readVarint = .ok v (advance front.length self) := by
  obtain ⟨n, _, stays, shifts, ended⟩ := readVarint_cases self
  obtain ⟨whole, length, result⟩ := isVarint_ends read form stays ended
  have value : (varintState self (n + 1)).1 = v := by
    show UInt64.ofNat (number _) = v
    rw [← whole, form.value, UInt64.ofNat_toNat]
  rw [result, value, length]

/-- Reading a varint takes a form of a number. -/
theorem reads_varint : Reads readVarint IsVarint where
  sound := by
    intro self v self' ran
    obtain ⟨n, inside, stays, shifts, ended⟩ := readVarint_cases self
    rw [ran] at ended
    cases ended with
    | last here tenth last =>
      refine ⟨(rest self).take (n + 1), List.take_prefix _ _,
        isVarint_take inside stays here tenth last, ?_⟩
      rw [List.length_take_of_le (List.getElem?_eq_some_iff.mp here).1]
  complete := fun _ read form => readVarint_of_isVarint read form
  fails := by
    intro self e self' ran
    obtain ⟨n, inside, stays, shifts, ended⟩ := readVarint_cases self
    rw [ran] at ended
    cases ended with
    | truncated _ => exact ⟨n, stays_le stays, rfl⟩
    | overflow _ here _ => exact ⟨n + 1, (List.getElem?_eq_some_iff.mp here).1, rfl⟩

/-- The bytes end before one that does not continue. -/
def EndsEarly (self : HealthProtoReader) : Prop := ∀ b ∈ rest self, Continues b

/-- Nine bytes continue, and the tenth is greater than 1. -/
def TenthTooLarge (self : HealthProtoReader) : Prop :=
  (∀ b ∈ (rest self).take 9, Continues b) ∧ ∃ b, (rest self)[9]? = some b ∧ 1 < b.toNat

/-- Reading a varint fails in these two cases. -/
theorem readVarint_error_iff (self : HealthProtoReader) :
    (∃ e self', self.readVarint = .error e self') ↔ EndsEarly self ∨ TenthTooLarge self := by
  constructor
  · rintro ⟨e, self', ran⟩
    obtain ⟨n, inside, stays, shifts, ended⟩ := readVarint_cases self
    rw [ran] at ended
    cases ended with
    | truncated none =>
      refine .inl fun b member => stays_continues stays b ?_
      rwa [List.take_of_length_le (List.getElem?_eq_none_iff.mp none)]
    | overflow nine here large =>
      subst nine
      exact .inr ⟨stays_continues stays, _, here, large⟩
  · intro bad
    cases ran : self.readVarint with
    | error e self' => exact ⟨e, self', rfl⟩
    | ok v self' =>
      obtain ⟨front, read, form, -⟩ := reads_varint.sound ran
      obtain ⟨pre, last, rfl, -, stops⟩ := form.ended
      have at_last := getElem?_last read
      rcases bad with early | ⟨nine, b, ten, large⟩
      · exact absurd (early last (List.mem_of_getElem? at_last)) stops
      · have short := form.short
        rw [List.length_append, List.length_singleton] at short
        rcases Nat.lt_or_eq_of_le (Nat.le_of_succ_le_succ short) with below | tenth
        · refine absurd (nine last (List.mem_of_getElem? (i := pre.length) ?_)) stops
          rw [List.getElem?_take, if_pos below]
          exact at_last
        · rw [tenth, ten] at at_last
          cases at_last
          refine absurd (form.tenth ?_) (Nat.not_le.mpr large)
          exact tenth ▸ getElem?_last (List.prefix_refl _)

/-- The shift of one pass loses no bit. -/
theorem varintShift_lossless {b : UInt8} (here : (rest self)[n]? = some b) (inside : n < 10)
    (tenth : n = 9 → b.toNat ≤ 1) : ∀ shift ∈ varintShift self n, Lossless shift.1 shift.2 := by
  intro shift member
  rw [varintShift, here] at member
  cases List.mem_singleton.mp member
  exact lossless_of_fits (by omega) (group_fits inside tenth)

/-- The shifts of the loop lose no bit. -/
theorem varintLoop_lossless (self : HealthProtoReader) :
    ∀ shift ∈ self.varintLoop.1, Lossless shift.1 shift.2 := by
  obtain ⟨n, inside, stays, shifts, result, ended, ran⟩ := varintLoop_eq self
  intro shift member
  rw [ran] at member
  rcases List.mem_append.mp member with earlier | last
  · obtain ⟨j, among, made⟩ := List.mem_flatMap.mp earlier
    have before : j < n := by simpa using (List.mem_range'_1.mp among).2
    obtain ⟨b, here, -, tenth⟩ := stays j before
    exact varintShift_lossless here (Nat.lt_trans before inside) tenth shift made
  · cases ended with
    | truncated _ => cases last
    | overflow _ _ _ => cases last
    | last here tenth _ => exact varintShift_lossless here inside tenth shift last

end Read

end HealthProtoReader

open HealthProtoCodec HealthProtoReader

/-- Varints round-trip, over any bytes before and behind. Reading at any offset of any bytes
shifts no bit out, fails exactly when the bytes end early or the tenth is too large, and
never comes to the end of the loop. -/
theorem varints_exact :
    (∀ (out : List UInt8) (value : UInt64) (suffix : List UInt8) (message : String),
      readVarint ⟨writeVarint out value ++ suffix, out.length, message⟩ =
          .ok value ⟨writeVarint out value ++ suffix, out.length + varintLen value, message⟩ ∧
        1 ≤ varintLen value ∧ varintLen value ≤ 10) ∧
    (∀ self : HealthProtoReader,
      (∀ shift ∈ self.varintLoop.1, Lossless shift.1 shift.2) ∧
      ((∃ e self', self.readVarint = .error e self') ↔ EndsEarly self ∨ TenthTooLarge self) ∧
      ∃ result, self.varintLoop.2 = .inr result) := by
  refine ⟨fun out value suffix message => ⟨?_, ?_, ?_⟩, fun self => ⟨?_, ?_, ?_⟩⟩
  · rw [varintLen_eq]
    refine readVarint_of_isVarint ?_ (isVarint_encoded value)
    show encoded value <+: (writeVarint out value ++ suffix).drop out.length
    rw [writeVarint_eq, List.append_assoc, List.drop_left]
    exact List.prefix_append _ _
  · rw [varintLen_eq]
    exact (isVarint_encoded value).length_pos
  · rw [varintLen_eq]
    exact encoded_length_le_ten value
  · exact varintLoop_lossless self
  · exact readVarint_error_iff self
  · obtain ⟨n, -, -, shifts, result, -, ran⟩ := varintLoop_eq self
    exact ⟨result, by rw [ran]⟩

example : writeVarint [0x08] 300 = [0x08, 0xac, 0x02] := by decide +kernel

end GrpcEgress
