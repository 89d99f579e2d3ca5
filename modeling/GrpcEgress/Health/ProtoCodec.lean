import GrpcEgress.Lib.Cursor
import GrpcEgress.Lib.RangeLoop
import GrpcEgress.Lib.Wire

/-!
# The wire helpers of the health messages

`HealthProtoCodec` and `HealthProtoReader`: a writer and a length of varints, and a reader
with an offset into the bytes of one message. A method of the reader changes the reader also
when it fails, so it is a computation on the state that both outcomes carry (`Reading`). The
offset is a cursor, and the reader is one of the readers of the library.

Reading a varint is a loop over ten indices. A pass records the group of bits it shifts
along with the number of places.
-/

namespace GrpcEgress

open Varint

/-- `DecodeError`: which message could not be read, and why. -/
structure DecodeError where
  message : String
  reason : String
deriving DecidableEq, Repr

/-! ## Writing -/

namespace HealthProtoCodec

/-- Seven bits less are left of a number that has more. -/
theorem shiftRight_lt {value : UInt64} (more : 0x80 ≤ value) :
    (value >>> 7).toNat < value.toNat := by
  have large : 128 ≤ value.toNat := UInt64.le_iff_toNat_le.mp more
  rw [toNat_shiftRight_seven]
  exact Nat.div_lt_self (Nat.lt_of_lt_of_le (by decide) large) (by decide)

/-- `write_varint`: the bytes are pushed onto `out`. -/
def writeVarint (out : List UInt8) (value : UInt64) : List UInt8 :=
  if 0x80 ≤ value then
    writeVarint (out ++ [(value.toUInt8 &&& 0x7f) ||| 0x80]) (value >>> 7)
  else out ++ [value.toUInt8]
termination_by value.toNat
decreasing_by exact shiftRight_lt ‹_›

/-- The loop of `varint_len`, with the bytes that were counted. -/
def varintLenFrom (length : Nat) (value : UInt64) : Nat :=
  if 0x80 ≤ value then varintLenFrom (length + 1) (value >>> 7) else length
termination_by value.toNat
decreasing_by exact shiftRight_lt ‹_›

/-- `varint_len`. -/
def varintLen (value : UInt64) : Nat := varintLenFrom 1 value

end HealthProtoCodec

/-! ## Reading -/

/-- `HealthProtoReader`: the bytes of a message, and where the next field starts. -/
structure HealthProtoReader where
  bytes : List UInt8
  offset : Nat
  message : String
deriving DecidableEq, Repr

/-- `HealthProtoCodec::reader`. -/
def HealthProtoCodec.reader (bytes : List UInt8) (message : String) : HealthProtoReader :=
  ⟨bytes, 0, message⟩

/-- A method of the reader: `&mut self` and a `Result`. -/
abbrev Reading (α : Type) := EStateM DecodeError HealthProtoReader α

/-- The offset is the cursor. It is valid when it has not passed the end of bytes that can
be addressed. -/
instance : Cursor HealthProtoReader UInt8 where
  rest self := self.bytes.drop self.offset
  advance n self := { self with offset := self.offset + n }
  valid self := self.offset ≤ self.bytes.length ∧ self.bytes.length < USize.size
  advance_zero _ := rfl
  advance_add m n self := by rw [Nat.add_assoc]
  rest_advance n self := List.drop_drop.symm
  valid_advance n self ok inside := by
    refine ⟨?_, ok.2⟩
    rw [List.length_drop] at inside
    have := ok.1
    show self.offset + n ≤ self.bytes.length
    omega

namespace HealthProtoReader

open Cursor

/-- `error`: a failure to read this message. -/
def error (self : HealthProtoReader) (reason : String) : DecodeError := ⟨self.message, reason⟩

/-- One pass of the loop in `read_varint`, with the value and the reader so far. -/
def varintPass (index : Nat) :
    UInt64 × HealthProtoReader → RangeLoop.Pass (UInt64 × Nat) (UInt64 × HealthProtoReader)
      (EStateM.Result DecodeError HealthProtoReader UInt64)
  | (value, self) =>
    match self.bytes[self.offset]? with
    | none => .exit [] (.error (self.error "truncated protobuf varint") self)
    | some byte =>
      let self := { self with offset := self.offset + 1 }
      if index = 9 ∧ 1 < byte then
        .exit [] (.error (self.error "protobuf varint overflows 64 bits") self)
      else
        let value := value ||| (byte &&& 0x7f).toUInt64 <<< UInt64.ofNat (index * 7)
        let shifted := [((byte &&& 0x7f).toUInt64, index * 7)]
        if byte &&& 0x80 == 0 then .exit shifted (.ok value self)
        else .again shifted (value, self)

/-- `for index in 0..10`: the groups that were shifted, with the number of places, and how
the loop ended. -/
def varintLoop (self : HealthProtoReader) :=
  RangeLoop.run varintPass 10 0 (0, self)

/-- `read_varint`. -/
def readVarint : Reading UInt64 := fun self =>
  match self.varintLoop.2 with
  | .inr result => result
  | .inl (_, self) => .error (self.error "protobuf varint exceeds 10 bytes") self

/-- `next_field`: the number and the wire type of the next field, or nothing at the end. -/
def nextField : Reading (Option (UInt32 × UInt8)) := do
  let self ← get
  if self.offset = self.bytes.length then return none
  let key ← readVarint
  let field := key >>> 3
  let wireType := (key &&& 0x07).toUInt8
  let self ← get
  if field = 0 ∨ 0x1fffffff < field ∨ wireType ∈ [3, 4, 6, 7] then
    throw (self.error "invalid protobuf field key")
  return some (field.toUInt32, wireType)

/-- `bytes.get(start..end)`. -/
def getRange (bytes : List UInt8) (start stop : Nat) : Option (List UInt8) :=
  if start ≤ stop ∧ stop ≤ bytes.length then some ((bytes.drop start).take (stop - start))
  else none

/-- `read_length_delimited`. -/
def readLengthDelimited : Reading (List UInt8) := do
  let length ← readVarint
  let self ← get
  -- `usize::try_from`, and `checked_add` below.
  if USize.size ≤ length.toNat then
    throw (self.error "protobuf length does not fit in memory")
  if USize.size ≤ self.offset + length.toNat then
    throw (self.error "protobuf length overflows")
  match getRange self.bytes self.offset (self.offset + length.toNat) with
  | none => throw (self.error "truncated length-delimited protobuf field")
  | some value =>
    set { self with offset := self.offset + length.toNat }
    return value

/-- `skip_bytes`. -/
def skipBytes (length : Nat) : Reading Unit := do
  let self ← get
  if USize.size ≤ self.offset + length then
    throw (self.error "protobuf field length overflows")
  if self.bytes.length < self.offset + length then
    throw (self.error "truncated fixed-width protobuf field")
  set { self with offset := self.offset + length }

/-- `skip`: an unknown field of `wireType`. -/
def skip (wireType : UInt8) : Reading Unit :=
  match wireType with
  | 0 => do
    let _ ← readVarint
  | 1 => skipBytes 8
  | 2 => do
    let _ ← readLengthDelimited
  | 5 => skipBytes 4
  | _ => do
    let self ← get
    throw (self.error "unsupported protobuf wire type")

end HealthProtoReader

end GrpcEgress
