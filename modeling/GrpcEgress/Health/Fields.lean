import GrpcEgress.Health.Varints

/-!
# Fields, read

The other methods of the reader, each with what it reads in terms of the wire format:
1. `items_nextField`: the end, or a key;
2. `reads_delimited`, `reads_skipBytes`, `reads_skip`: a payload.

Both decoders are a loop over the fields that keeps the last value of one of them and skips
the others. `decodeField` is its round, with the wire type of that field and the reader of
its payload as parameters, and `items_decodeField` says that a round reads one field.
-/

namespace GrpcEgress

open Varint Cursor Wire

namespace HealthProtoReader

/-! ## Keys -/

/-- The number and the wire type in a key. -/
def IsKeyOf (key : UInt64) (field : UInt32) (wireType : UInt8) : Prop :=
  key.toNat = 8 * field.toNat + wireType.toNat ∧ 1 ≤ field.toNat ∧ field.toNat ≤ maxNumber ∧
    wireType ∈ [0, 1, 2, 5]

/-- What `next_field` refuses. -/
def Refused (key : UInt64) : Prop :=
  key >>> 3 = 0 ∨ (0x1fffffff : UInt64) < key >>> 3 ∨ (key &&& 0x07).toUInt8 ∈ [3, 4, 6, 7]

instance (key : UInt64) : Decidable (Refused key) := inferInstanceAs (Decidable (_ ∨ _ ∨ _))

theorem toNat_keyField (key : UInt64) : (key >>> 3).toNat = key.toNat / 8 := by
  rw [UInt64.toNat_shiftRight]
  exact Nat.shiftRight_eq_div_pow _ 3

theorem toNat_keyWireType (key : UInt64) : (key &&& 0x07).toUInt8.toNat = key.toNat % 8 := by
  have low : key.toNat % 8 < 8 := Nat.mod_lt _ (by decide)
  rw [UInt64.toNat_toUInt8, UInt64.toNat_and]
  show (key.toNat &&& 2 ^ 3 - 1) % 256 = _
  rw [Nat.and_two_pow_sub_one_eq_mod]
  exact Nat.mod_eq_of_lt (Nat.lt_trans low (by decide))

/-- Three bits are a wire type that has a payload, or one that is refused. -/
theorem wireType_cases {wireType : UInt8} (low : wireType.toNat < 8) :
    wireType ∈ [0, 1, 2, 5] ↔ wireType ∉ [3, 4, 6, 7] := by
  have all : ∀ n < 8, UInt8.ofNat n ∈ [0, 1, 2, 5] ↔ UInt8.ofNat n ∉ [3, 4, 6, 7] := by decide
  have here := all wireType.toNat low
  rwa [UInt8.ofNat_toNat] at here

theorem wireType_lt {wireType : UInt8} (member : wireType ∈ [0, 1, 2, 5]) :
    wireType.toNat < 8 := by
  simp only [List.mem_cons, List.not_mem_nil, or_false] at member
  rcases member with rfl | rfl | rfl | rfl <;> decide

theorem isKeyOf_iff {key : UInt64} {field : UInt32} {wireType : UInt8} :
    IsKeyOf key field wireType ↔
      ¬ Refused key ∧ field = (key >>> 3).toUInt32 ∧ wireType = (key &&& 0x07).toUInt8 := by
  have number := toNat_keyField key
  have wire := toNat_keyWireType key
  have low : (key &&& 0x07).toUInt8.toNat < 8 := wire ▸ Nat.mod_lt _ (by decide)
  have zero : key >>> 3 = 0 ↔ key.toNat / 8 = 0 := by
    rw [← UInt64.toNat_inj, number]
    exact Iff.rfl
  have large : (0x1fffffff : UInt64) < key >>> 3 ↔ maxNumber < key.toNat / 8 := by
    rw [UInt64.lt_iff_toNat_lt, number]
    exact Iff.rfl
  have cut : key.toNat / 8 ≤ maxNumber → (key >>> 3).toUInt32.toNat = key.toNat / 8 := by
    intro small
    rw [UInt64.toNat_toUInt32, number]
    exact Nat.mod_eq_of_lt (Nat.lt_of_le_of_lt small (by decide))
  rw [Refused, zero, large, not_or, not_or, ← wireType_cases low]
  constructor
  · rintro ⟨packed, positive, small, member⟩
    have below := wireType_lt member
    have field_eq : key.toNat / 8 = field.toNat := by omega
    have wire_eq : key.toNat % 8 = wireType.toNat := by omega
    have same : wireType = (key &&& 0x07).toUInt8 := UInt8.toNat_inj.mp (wire ▸ wire_eq.symm)
    refine ⟨⟨?_, ?_, same ▸ member⟩, UInt32.toNat_inj.mp ?_, same⟩
    · omega
    · omega
    · rw [cut (field_eq ▸ small), field_eq]
  · rintro ⟨⟨positive, small, member⟩, rfl, rfl⟩
    have field_eq := cut (Nat.not_lt.mp small)
    refine ⟨?_, ?_, ?_, member⟩
    · rw [field_eq, wire]
      exact (Nat.div_add_mod _ _).symm
    · rw [field_eq]
      exact Nat.pos_of_ne_zero positive
    · rw [field_eq]
      exact Nat.not_lt.mp small

theorem nextField_eq (self : HealthProtoReader) : nextField self =
    if self.offset = self.bytes.length then .ok none self
    else (readVarint >>= fun key self =>
      if Refused key then .error (self.error "invalid protobuf field key") self
      else .ok (some ((key >>> 3).toUInt32, (key &&& 0x07).toUInt8)) self :
        Reading (Option (UInt32 × UInt8))) self := by
  by_cases ended : self.offset = self.bytes.length
  · exact (congrFun (if_pos ended) self).trans (if_pos ended).symm
  · refine (congrFun (if_neg ended) self).trans (Eq.trans ?_ (if_neg ended).symm)
    refine congrFun (congrArg (readVarint >>= ·) (funext fun key => funext fun self => ?_)) self
    by_cases refused : Refused key
    · exact (congrFun (if_pos refused) self).trans (if_pos refused).symm
    · exact (congrFun (if_neg refused) self).trans (if_neg refused).symm

/-! ## Payloads -/

theorem readLengthDelimited_eq : readLengthDelimited = (readVarint >>= fun length self =>
    if USize.size ≤ length.toNat then
      .error (self.error "protobuf length does not fit in memory") self
    else if USize.size ≤ self.offset + length.toNat then
      .error (self.error "protobuf length overflows") self
    else match getRange self.bytes self.offset (self.offset + length.toNat) with
      | none => .error (self.error "truncated length-delimited protobuf field") self
      | some value => .ok value (advance length.toNat self) : Reading (List UInt8)) := by
  refine congrArg (readVarint >>= ·) (funext fun length => funext fun self => ?_)
  by_cases huge : USize.size ≤ length.toNat
  · exact (congrFun (if_pos huge) self).trans (if_pos huge).symm
  · refine (congrFun (if_neg huge) self).trans (Eq.trans ?_ (if_neg huge).symm)
    by_cases large : USize.size ≤ self.offset + length.toNat
    · exact (congrFun (if_pos large) self).trans (if_pos large).symm
    · refine (congrFun (if_neg large) self).trans (Eq.trans ?_ (if_neg large).symm)
      cases getRange self.bytes self.offset (self.offset + length.toNat) <;> rfl

theorem skipBytes_eq (length : Nat) (self : HealthProtoReader) : skipBytes length self =
    if USize.size ≤ self.offset + length then
      .error (self.error "protobuf field length overflows") self
    else if self.bytes.length < self.offset + length then
      .error (self.error "truncated fixed-width protobuf field") self
    else .ok () (advance length self) := by
  by_cases large : USize.size ≤ self.offset + length
  · exact (congrFun (if_pos large) self).trans (if_pos large).symm
  · refine (congrFun (if_neg large) self).trans (Eq.trans ?_ (if_neg large).symm)
    by_cases outside : self.bytes.length < self.offset + length
    · exact (congrFun (if_pos outside) self).trans (if_pos outside).symm
    · exact (congrFun (if_neg outside) self).trans (if_neg outside).symm

section Range

variable {self : HealthProtoReader} {n : Nat} {value front : List UInt8}

theorem length_rest (self : HealthProtoReader) :
    (rest self).length = self.bytes.length - self.offset := List.length_drop

/-- A range at the cursor is what is in front of it. -/
theorem getRange_sound (got : getRange self.bytes self.offset (self.offset + n) = some value) :
    value <+: rest self ∧ value.length = n := by
  unfold getRange at got
  split at got
  · next inside =>
    rw [Nat.add_sub_cancel_left] at got
    cases got
    refine ⟨List.take_prefix _ _, List.length_take_of_le ?_⟩
    rw [List.length_drop]
    omega
  · cases got

theorem getRange_complete (ok : Cursor.valid self) (read : front <+: rest self) :
    getRange self.bytes self.offset (self.offset + front.length) = some front := by
  have left := read.length_le
  have inside := ok.1
  rw [length_rest] at left
  unfold getRange
  rw [if_pos ⟨Nat.le_add_right _ _, by omega⟩, Nat.add_sub_cancel_left]
  exact congrArg some (List.prefix_iff_eq_take.mp read).symm

/-- What is in front of the cursor can be addressed. -/
theorem end_lt_size (ok : Cursor.valid self) (read : front <+: rest self) :
    self.offset + front.length ≤ self.bytes.length ∧
      self.offset + front.length < USize.size := by
  have left := read.length_le
  have inside := ok.1
  have fits := ok.2
  rw [length_rest] at left
  omega

end Range

theorem reads_skipBytes (n : Nat) : Reads (skipBytes n) fun front _ => front.length = n where
  sound := by
    intro self _ self' ran
    rw [skipBytes_eq] at ran
    split at ran
    · cases ran
    · split at ran
      · cases ran
      · next inside =>
        cases ran
        have taken : ((rest self).take n).length = n := by
          refine List.length_take_of_le ?_
          rw [length_rest]
          omega
        exact ⟨_, List.take_prefix _ _, taken, taken.symm ▸ rfl⟩
  complete := by
    rintro self _ front ok read rfl
    obtain ⟨inside, fits⟩ := end_lt_size ok read
    rw [skipBytes_eq, if_neg (Nat.not_le.mpr fits), if_neg (Nat.not_lt.mpr inside)]
  fails := by
    intro self e self' ran
    rw [skipBytes_eq] at ran
    refine ⟨0, Nat.zero_le _, ?_⟩
    split at ran
    · cases ran
      rfl
    · split at ran
      · cases ran
        rfl
      · cases ran

/-- A length, and as many bytes behind it. -/
theorem reads_delimited :
    Reads readLengthDelimited fun front value => IsPayload front (.delimited value) := by
  rw [readLengthDelimited_eq]
  refine (reads_varint.bind (M := fun length front value =>
    front = value ∧ value.length = length.toNat) fun length => ⟨?_, ?_, ?_⟩).congr ?_
  · intro self value self' ran
    split at ran
    · cases ran
    · split at ran
      · cases ran
      · split at ran
        · cases ran
        · next got =>
          cases ran
          obtain ⟨read, filled⟩ := getRange_sound got
          exact ⟨value, read, ⟨rfl, filled⟩, filled.symm ▸ rfl⟩
  · rintro self value front ok read ⟨rfl, filled⟩
    obtain ⟨-, fits⟩ := end_lt_size ok read
    rw [← filled, if_neg (Nat.not_le.mpr (Nat.lt_of_le_of_lt (Nat.le_add_left _ _) fits)),
      if_neg (Nat.not_le.mpr fits), getRange_complete ok read]
  · intro self e self' ran
    refine ⟨0, Nat.zero_le _, ?_⟩
    split at ran
    · cases ran
      rfl
    · split at ran
      · cases ran
        rfl
      · split at ran
        · cases ran
          rfl
        · cases ran
  · intro front value
    constructor
    · rintro ⟨length, back, n, rfl, form, rfl, filled⟩
      exact .delimited form filled
    · rintro (_ | _ | ⟨form, filled⟩ | _)
      exact ⟨_, _, _, rfl, form, rfl, filled⟩

/-- A payload of the wire type, whatever it holds. -/
theorem reads_skip (wireType : UInt8) : Reads (skip wireType) fun front _ =>
    ∃ payload, IsPayload front payload ∧ payload.wireType = wireType.toNat := by
  unfold skip
  split
  · refine (reads_varint.map fun _ => ()).congr fun front _ => Iff.trans ?_ exists_varint.symm
    simp only [and_true]
  · exact (reads_skipBytes 8).congr fun front _ => exists_fixed64.symm
  · refine (reads_delimited.map fun _ => ()).congr fun front _ =>
      Iff.trans ?_ exists_delimited.symm
    simp only [and_true]
  · exact (reads_skipBytes 4).congr fun front _ => exists_fixed32.symm
  · next not0 not1 not2 not5 =>
    refine (Reads.refuse (error · "unsupported protobuf wire type")).congr fun front _ => ?_
    refine ⟨False.elim, ?_⟩
    rintro ⟨payload, -, wire⟩
    cases payload with
    | varint _ => exact not0 (UInt8.toNat_inj.mp wire.symm)
    | fixed64 _ => exact not1 (UInt8.toNat_inj.mp wire.symm)
    | delimited _ => exact not2 (UInt8.toNat_inj.mp wire.symm)
    | fixed32 _ => exact not5 (UInt8.toNat_inj.mp wire.symm)

/-! ## Keys, at the end or not -/

variable {self self' : HealthProtoReader} {field : UInt32} {wireType : UInt8}

/-- A key is read where the message has not ended. -/
theorem reads_key : Reads (readVarint >>= fun key self =>
    if Refused key then .error (self.error "invalid protobuf field key") self
    else .ok (some ((key >>> 3).toUInt32, (key &&& 0x07).toUInt8)) self :
      Reading (Option (UInt32 × UInt8))) fun front found =>
    ∃ key field wireType, IsVarint front key ∧ IsKeyOf key field wireType ∧
      found = some (field, wireType) := by
  refine (reads_varint.bind (M := fun key front found =>
    front = [] ∧ ∃ field wireType, IsKeyOf key field wireType ∧ found = some (field, wireType))
    fun key => ?_).congr ?_
  · by_cases refused : Refused key
    · simp only [if_pos refused]
      refine (Reads.refuse (error · "invalid protobuf field key")).congr fun front found => ?_
      refine ⟨False.elim, ?_⟩
      rintro ⟨-, _, _, is, -⟩
      exact (isKeyOf_iff.mp is).1 refused
    · simp only [if_neg refused]
      refine (Reads.pure _).congr fun front found => and_congr Iff.rfl ?_
      constructor
      · rintro rfl
        exact ⟨_, _, isKeyOf_iff.mpr ⟨refused, rfl, rfl⟩, rfl⟩
      · rintro ⟨_, _, is, rfl⟩
        obtain ⟨-, rfl, rfl⟩ := isKeyOf_iff.mp is
        rfl
  · intro front found
    constructor
    · rintro ⟨front, _, key, rfl, form, rfl, _, _, is, rfl⟩
      rw [List.append_nil]
      exact ⟨key, _, _, form, is, rfl⟩
    · rintro ⟨key, _, _, form, is, rfl⟩
      exact ⟨front, [], key, (List.append_nil front).symm, form, rfl, _, _, is, rfl⟩

theorem rest_eq_nil (ok : Cursor.valid self) :
    self.offset = self.bytes.length ↔ rest self = [] := by
  rw [← List.length_eq_zero_iff, length_rest]
  have := ok.1
  omega

/-- The end of the message, or a key. -/
theorem items_nextField : Items nextField fun front (found : UInt32 × UInt8) =>
    ∃ key, IsVarint front key ∧ IsKeyOf key found.1 found.2 where
  ends := by
    intro self self' ok
    rw [nextField_eq, ← rest_eq_nil ok]
    split
    · next ended => simp [ended, eq_comm]
    · next more =>
      refine ⟨fun ran => ?_, fun h => absurd h.1 more⟩
      obtain ⟨front, -, ⟨key, field, wireType, -, -, some⟩, -⟩ := reads_key.sound ran
      cases some
  sound := by
    intro self found self' ran
    rw [nextField_eq] at ran
    split at ran
    · cases ran
    · obtain ⟨front, read, ⟨key, _, _, form, is, some⟩, moved⟩ := reads_key.sound ran
      cases some
      exact ⟨front, read, ⟨key, form, is⟩, moved⟩
  complete := by
    rintro self found front ok read ⟨key, form, is⟩
    have more : ¬ self.offset = self.bytes.length := by
      rw [rest_eq_nil ok]
      intro none
      rw [none, List.prefix_nil] at read
      exact absurd (read ▸ form.length_pos) (by decide)
    rw [nextField_eq, if_neg more]
    exact reads_key.complete ok read ⟨key, _, _, form, is, rfl⟩
  fails := by
    intro self e self' ran
    rw [nextField_eq] at ran
    split at ran
    · cases ran
    · exact reads_key.fails ran

end HealthProtoReader

/-! ## Rounds -/

open HealthProtoReader

variable {α : Type}

/-- One round of `while let Some((field, wire_type)) = reader.next_field()?`: field 1 of the
message's own wire type replaces the value, any other field is skipped. -/
def decodeField (own : UInt8) (read : Reading α) (value : α) : Reading (Option α) := do
  match ← nextField with
  | none => return none
  | some (field, wireType) =>
    if field = 1 ∧ wireType = own then
      let value ← read
      return some value
    else
      skip wireType
      return some value

/-- `field` is field 1 of the message's own wire type. -/
def Own (own : UInt8) (field : Field) : Prop :=
  field.number = 1 ∧ field.payload.wireType = own.toNat

/-- What `read` makes of a payload is what the field says, and only own fields say anything. -/
structure ReadsOwn (own : UInt8) (read : Reading α) (tells : Field → Option α) : Prop where
  reads : Reads read fun front a =>
    ∃ payload, IsPayload front payload ∧ tells ⟨1, payload⟩ = some a
  tells_own : ∀ {field a}, tells field = some a → Own own field

/-- A round: some field, which says something if it is an own one. -/
def OneField (own : UInt8) (tells : Field → Option α) (a : α) (front : List UInt8) (b : α) : Prop :=
  ∃ field, IsField front field ∧ (Own own field → (tells field).isSome) ∧ b = (tells field).getD a

section Round

variable {own : UInt8} {read : Reading α} {tells : Field → Option α}

/-- What comes behind a key. -/
theorem reads_body (spec : ReadsOwn own read tells) (a : α) (found : UInt32 × UInt8) :
    Reads (if found.1 = 1 ∧ found.2 = own then read >>= fun b => pure (some b)
      else skip found.2 >>= fun _ => pure (some a) : Reading (Option α)) fun back out =>
      ∃ b, out = some b ∧ ∃ payload, IsPayload back payload ∧
        payload.wireType = found.2.toNat ∧
        (Own own ⟨found.1.toNat, payload⟩ → (tells ⟨found.1.toNat, payload⟩).isSome) ∧
        b = (tells ⟨found.1.toNat, payload⟩).getD a := by
  obtain ⟨number, wireType⟩ := found
  by_cases mine : number = 1 ∧ wireType = own
  · obtain ⟨rfl, rfl⟩ := mine
    rw [if_pos ⟨rfl, rfl⟩]
    refine (spec.reads.map some).congr fun back out => ?_
    constructor
    · rintro ⟨b, ⟨payload, is, said⟩, rfl⟩
      have tells : tells ⟨(1 : UInt32).toNat, payload⟩ = some b := said
      refine ⟨b, rfl, payload, is, (spec.tells_own said).2, fun _ => ?_, ?_⟩
      · rw [tells]
        rfl
      · rw [tells]
        rfl
    · rintro ⟨b, rfl, payload, is, wire, accepted, value⟩
      obtain ⟨c, said⟩ := Option.isSome_iff_exists.mp (accepted ⟨rfl, wire⟩)
      rw [said] at value
      exact ⟨c, ⟨payload, is, said⟩, congrArg some value.symm⟩
  · rw [if_neg mine]
    have silent : ∀ payload : Payload, payload.wireType = wireType.toNat →
        ¬ Own own ⟨number.toNat, payload⟩ := fun payload wire ⟨one, type⟩ =>
      mine ⟨UInt32.toNat_inj.mp one, UInt8.toNat_inj.mp (wire.symm.trans type)⟩
    have unsaid : ∀ payload : Payload, payload.wireType = wireType.toNat →
        tells ⟨number.toNat, payload⟩ = none := fun payload wire =>
      Option.eq_none_iff_forall_ne_some.mpr fun b said =>
        silent payload wire (spec.tells_own said)
    refine ((reads_skip wireType).map fun _ => some a).congr fun back out => ?_
    constructor
    · rintro ⟨_, ⟨payload, is, wire⟩, rfl⟩
      refine ⟨a, rfl, payload, is, wire, fun mine => absurd mine (silent payload wire), ?_⟩
      rw [unsaid payload wire]
      rfl
    · rintro ⟨b, rfl, payload, is, wire, -, rfl⟩
      rw [unsaid payload wire]
      exact ⟨(), ⟨payload, is, wire⟩, rfl⟩

/-- The key and the payload of a field have the same wire type. -/
theorem isKey_iff {key : UInt64} {field : Field} : IsKey key field ↔
    ∃ found : UInt32 × UInt8, IsKeyOf key found.1 found.2 ∧ field.number = found.1.toNat ∧
      field.payload.wireType = found.2.toNat := by
  constructor
  · rintro ⟨packed, positive, small⟩
    have number : (UInt32.ofNat field.number).toNat = field.number := by
      rw [UInt32.toNat_ofNat']
      exact Nat.mod_eq_of_lt (Nat.lt_of_le_of_lt small (by decide))
    have wire : (UInt8.ofNat field.payload.wireType).toNat = field.payload.wireType := by
      rw [UInt8.toNat_ofNat']
      exact Nat.mod_eq_of_lt (Nat.lt_trans field.payload.wireType_lt (by decide))
    refine ⟨(UInt32.ofNat field.number, UInt8.ofNat field.payload.wireType),
      ⟨?_, ?_, ?_, ?_⟩, number.symm, wire.symm⟩
    · rw [number, wire]
      exact packed
    · rw [number]
      exact positive
    · rw [number]
      exact small
    · have all : ∀ n ∈ [0, 1, 2, 5], UInt8.ofNat n ∈ [0, 1, 2, 5] := by decide
      exact all _ field.payload.wireType_mem
  · rintro ⟨⟨number, wireType⟩, ⟨packed, positive, small, -⟩, same, wire⟩
    refine ⟨?_, same ▸ positive, same ▸ small⟩
    rw [same, wire]
    exact packed

/-- A round reads one field. -/
theorem items_decodeField (spec : ReadsOwn own read tells) (a : α) :
    Items (decodeField own read a) (OneField own tells a) := by
  refine Items.congr (items_nextField.bind rfl fun found => reads_body spec a found)
    fun bytes b => ?_
  constructor
  · rintro ⟨front, back, found, rfl, ⟨key, form, is⟩, payload, held, wire, accepted, value⟩
    refine ⟨⟨found.1.toNat, payload⟩, .mk form ?_ held, accepted, value⟩
    exact isKey_iff.mpr ⟨found, is, rfl, wire⟩
  · rintro ⟨⟨number, payload⟩, ⟨form, is, held⟩, accepted, value⟩
    obtain ⟨found, packed, rfl, wire⟩ := isKey_iff.mp is
    exact ⟨_, _, found, rfl, ⟨_, form, packed⟩, payload, held, wire, accepted, value⟩

end Round

end GrpcEgress
