import GrpcEgress.Lib.Varint

/-!
# Messages on the wire

A message is a concatenation of fields. A field is a key, which is a varint of the field
number and the wire type, and a payload of that wire type. The relations say which bytes
are what; they do not say how bytes are read. A payload keeps the bytes a decoder may look
at, and a field number is never 0 and has 29 bits at most.

What a message says about one of its fields is what the last such field says (`lastOr`), so
1. `IsMessage.append`: messages after one another are a message;
2. `IsMessage.unique`: bytes are one message at most;
3. `lastOr_append`: what it says is what the second says, or else the first.
-/

namespace Wire

open Varint

/-- What a field holds. -/
inductive Payload where
  | varint (value : UInt64)
  | fixed64 (bytes : List UInt8)
  | delimited (bytes : List UInt8)
  | fixed32 (bytes : List UInt8)
deriving DecidableEq, Repr

/-- The wire type. -/
def Payload.wireType : Payload → Nat
  | .varint _ => 0
  | .fixed64 _ => 1
  | .delimited _ => 2
  | .fixed32 _ => 5

@[ext]
structure Field where
  number : Nat
  payload : Payload
deriving DecidableEq, Repr

/-- The largest field number, of 29 bits. -/
def maxNumber : Nat := 0x1fffffff

inductive IsPayload : List UInt8 → Payload → Prop
  | varint {bytes v} : IsVarint bytes v → IsPayload bytes (.varint v)
  | fixed64 {bytes} : bytes.length = 8 → IsPayload bytes (.fixed64 bytes)
  | delimited {length n bytes} : IsVarint length n → bytes.length = n.toNat →
      IsPayload (length ++ bytes) (.delimited bytes)
  | fixed32 {bytes} : bytes.length = 4 → IsPayload bytes (.fixed32 bytes)

/-- `v` is the key of `field`. -/
structure IsKey (v : UInt64) (field : Field) : Prop where
  packed : v.toNat = 8 * field.number + field.payload.wireType
  positive : 1 ≤ field.number
  small : field.number ≤ maxNumber

inductive IsField : List UInt8 → Field → Prop
  | mk {key v bytes field} : IsVarint key v → IsKey v field → IsPayload bytes field.payload →
      IsField (key ++ bytes) field

inductive IsMessage : List UInt8 → List Field → Prop
  | nil : IsMessage [] []
  | cons {bytes field rest fields} : IsField bytes field → IsMessage rest fields →
      IsMessage (bytes ++ rest) (field :: fields)

theorem Payload.wireType_mem (payload : Payload) : payload.wireType ∈ [0, 1, 2, 5] := by
  cases payload <;> simp [Payload.wireType]

theorem Payload.wireType_lt (payload : Payload) : payload.wireType < 8 := by
  have all : ∀ n ∈ [0, 1, 2, 5], n < 8 := by decide
  exact all _ payload.wireType_mem

/-- Which bytes are a payload of a wire type. -/
theorem exists_varint {bytes : List UInt8} :
    (∃ payload, IsPayload bytes payload ∧ payload.wireType = 0) ↔ ∃ v, IsVarint bytes v := by
  constructor
  · rintro ⟨_, form | _ | _ | _, wire⟩ <;> first | exact ⟨_, form⟩ | cases wire
  · rintro ⟨v, form⟩
    exact ⟨_, .varint form, rfl⟩

theorem exists_fixed64 {bytes : List UInt8} :
    (∃ payload, IsPayload bytes payload ∧ payload.wireType = 1) ↔ bytes.length = 8 := by
  constructor
  · rintro ⟨_, _ | eight | _ | _, wire⟩ <;> first | exact eight | cases wire
  · exact fun eight => ⟨_, .fixed64 eight, rfl⟩

theorem exists_delimited {bytes : List UInt8} :
    (∃ payload, IsPayload bytes payload ∧ payload.wireType = 2) ↔
      ∃ content, IsPayload bytes (.delimited content) := by
  constructor
  · rintro ⟨_, _ | _ | ⟨form, filled⟩ | _, wire⟩ <;>
      first | exact ⟨_, .delimited form filled⟩ | cases wire
  · rintro ⟨content, is⟩
    exact ⟨_, is, rfl⟩

theorem exists_fixed32 {bytes : List UInt8} :
    (∃ payload, IsPayload bytes payload ∧ payload.wireType = 5) ↔ bytes.length = 4 := by
  constructor
  · rintro ⟨_, _ | _ | _ | four, wire⟩ <;> first | exact four | cases wire
  · exact fun four => ⟨_, .fixed32 four, rfl⟩

theorem IsField.length_pos {bytes : List UInt8} {field : Field} (h : IsField bytes field) :
    0 < bytes.length := by
  cases h with
  | mk key _ _ =>
    rw [List.length_append]
    exact Nat.lt_of_lt_of_le key.length_pos (Nat.le_add_right _ _)

theorem IsMessage.singleton {bytes : List UInt8} {field : Field} (h : IsField bytes field) :
    IsMessage bytes [field] :=
  List.append_nil bytes ▸ IsMessage.cons h .nil

theorem IsMessage.append {as bs : List UInt8} {fs gs : List Field} (first : IsMessage as fs)
    (second : IsMessage bs gs) : IsMessage (as ++ bs) (fs ++ gs) := by
  induction first with
  | nil => exact second
  | cons field _ ih =>
    rw [List.append_assoc]
    exact .cons field ih

/-! ## Bytes are one message at most -/

theorem IsPayload.unique {bytes front back : List UInt8} {p q : Payload} (one : IsPayload front p)
    (two : IsPayload back q) (wire : p.wireType = q.wireType) (read : front <+: bytes)
    (other : back <+: bytes) : front = back ∧ p = q := by
  have sized : front.length = back.length → front = back := fun length => by
    rw [List.prefix_iff_eq_take.mp read, List.prefix_iff_eq_take.mp other, length]
  cases one with
  | varint form =>
    cases two with
    | varint form' =>
      obtain ⟨rfl, rfl⟩ := form.unique form' read other
      exact ⟨rfl, rfl⟩
    | _ => cases wire
  | fixed64 eight =>
    cases two with
    | fixed64 eight' =>
      obtain rfl := sized (eight.trans eight'.symm)
      exact ⟨rfl, rfl⟩
    | _ => cases wire
  | delimited form filled =>
    cases two with
    | delimited form' filled' =>
      obtain ⟨rfl, rfl⟩ := form.unique form' ((List.prefix_append _ _).trans read)
        ((List.prefix_append _ _).trans other)
      have same := sized (by rw [List.length_append, List.length_append, filled, filled'])
      obtain rfl := List.append_cancel_left same
      exact ⟨rfl, rfl⟩
    | _ => cases wire
  | fixed32 four =>
    cases two with
    | fixed32 four' =>
      obtain rfl := sized (four.trans four'.symm)
      exact ⟨rfl, rfl⟩
    | _ => cases wire

theorem IsKey.unique {v : UInt64} {f g : Field} (one : IsKey v f) (two : IsKey v g) :
    f.number = g.number ∧ f.payload.wireType = g.payload.wireType := by
  have packed := one.packed.symm.trans two.packed
  have low := f.payload.wireType_lt
  have low' := g.payload.wireType_lt
  omega

theorem IsField.unique {bytes front back : List UInt8} {f g : Field} (one : IsField front f)
    (two : IsField back g) (read : front <+: bytes) (other : back <+: bytes) :
    front = back ∧ f = g := by
  obtain ⟨form, key, held⟩ := one
  obtain ⟨form', key', held'⟩ := two
  obtain ⟨rfl, rfl⟩ := form.unique form' ((List.prefix_append _ _).trans read)
    ((List.prefix_append _ _).trans other)
  obtain ⟨number, wire⟩ := key.unique key'
  obtain ⟨after, rfl⟩ := read
  rw [List.append_assoc, List.prefix_append_right_inj] at other
  obtain ⟨rfl, payload⟩ := held.unique held' wire (List.prefix_append _ _) other
  exact ⟨rfl, Field.ext number payload⟩

/-- The fields of a message are determined by its bytes. -/
theorem IsMessage.unique {bytes : List UInt8} {fs gs : List Field} (one : IsMessage bytes fs)
    (two : IsMessage bytes gs) : fs = gs := by
  induction one generalizing gs with
  | nil =>
    generalize none : ([] : List UInt8) = bytes at two
    cases two with
    | nil => rfl
    | cons is _ =>
      have positive := is.length_pos
      rw [(List.append_eq_nil_iff.mp none.symm).1] at positive
      cases positive
  | @cons front f rest fs is _ ih =>
    generalize whole : front ++ rest = bytes at two
    cases two with
    | nil =>
      have positive := is.length_pos
      rw [(List.append_eq_nil_iff.mp whole).1] at positive
      cases positive
    | cons is' message =>
      obtain ⟨rfl, rfl⟩ := is.unique is' (List.prefix_append _ rest)
        (whole ▸ List.prefix_append _ _)
      rw [ih (List.append_cancel_left whole ▸ message)]

/-! ## The last field -/

variable {α : Type}

/-- What the last field says that says something, or `a`. -/
def lastOr (tells : Field → Option α) (a : α) (fields : List Field) : α :=
  (fields.filterMap tells).getLast?.getD a

theorem lastOr_append (tells : Field → Option α) (a : α) (fs gs : List Field) :
    lastOr tells a (fs ++ gs) = lastOr tells (lastOr tells a fs) gs := by
  simp only [lastOr, List.filterMap_append, List.getLast?_append]
  cases (gs.filterMap tells).getLast? <;> rfl

theorem lastOr_cons (tells : Field → Option α) (a : α) (f : Field) (fs : List Field) :
    lastOr tells a (f :: fs) = lastOr tells ((tells f).getD a) fs := by
  have first : lastOr tells a [f] = (tells f).getD a := by
    cases said : tells f <;> simp [lastOr, said]
  rw [← first]
  exact lastOr_append tells a [f] fs

/-- A message that says it does not leave it to what came before. -/
theorem lastOr_of_tells {tells : Field → Option α} {fields : List Field}
    (said : ∃ field ∈ fields, (tells field).isSome) (a b : α) :
    lastOr tells a fields = lastOr tells b fields := by
  obtain ⟨field, member, some⟩ := said
  have nonempty : fields.filterMap tells ≠ [] := by
    intro empty
    rw [List.filterMap_eq_nil_iff.mp empty field member] at some
    cases some
  rw [lastOr, lastOr, List.getLast?_eq_some_getLast nonempty]
  rfl

/-- A message that does not say it leaves it. -/
theorem lastOr_of_not_tells {tells : Field → Option α} {fields : List Field}
    (silent : ¬ ∃ field ∈ fields, (tells field).isSome) (a : α) :
    lastOr tells a fields = a := by
  have empty : fields.filterMap tells = [] := by
    refine List.filterMap_eq_nil_iff.mpr fun field member => ?_
    cases said : tells field with
    | none => rfl
    | some b => exact absurd ⟨field, member, Option.isSome_iff_exists.mpr ⟨b, said⟩⟩ silent
  rw [lastOr, empty]
  rfl

end Wire
