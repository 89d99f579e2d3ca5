import GrpcEgress.Contract.Values
import GrpcEgress.Lib.Records

/-!
# The message framing of a gRPC body

`GrpcFrame`, and the answers of the in-process peer that are made with it. A message has a
prefix of five bytes: a flag, and the length of the payload in four bytes, the most
significant one first. The length is cut to these four bytes.

1. `next_frame`: a frame is read back, whatever follows it;
2. `frames_round_trip`: which messages come through, and what a body that is cut short or
   was not written by `GrpcFrame` is read as;
3. `echoed_messages`: what a client gets back from a peer that echoes.
-/

namespace GrpcEgress

open Records

/-- `DecodedFrame`. -/
structure DecodedFrame where
  compressed : Bool
  payload : List UInt8
deriving DecidableEq

namespace GrpcFrame

/-! ## Lengths -/

/-- What lengths are cut to: the values of a `u32`. -/
def lengths : Nat := 256 * 256 * 256 * 256

/-- `put_u32`. -/
def putU32 (n : Nat) : List UInt8 :=
  [.ofNat (n / (256 * 256 * 256)), .ofNat (n / (256 * 256)), .ofNat (n / 256), .ofNat n]

/-- `u32::from_be_bytes`. -/
def fromBeBytes (a b c d : UInt8) : Nat :=
  ((a.toNat * 256 + b.toNat) * 256 + c.toNat) * 256 + d.toNat

theorem fromBeBytes_lt (a b c d : UInt8) : fromBeBytes a b c d < lengths := by
  have := a.toNat_lt
  have := b.toNat_lt
  have := c.toNat_lt
  have := d.toNat_lt
  unfold fromBeBytes lengths
  omega

/-- A length is read back as far as it fits. -/
theorem fromBeBytes_putU32 (n : Nat) :
    fromBeBytes (.ofNat (n / (256 * 256 * 256))) (.ofNat (n / (256 * 256))) (.ofNat (n / 256))
      (.ofNat n) = n % lengths := by
  simp only [fromBeBytes, lengths, UInt8.toNat_ofNat', Nat.reducePow, Nat.reduceMul]
  omega

/-- Four bytes are the length that they are read as. -/
theorem putU32_fromBeBytes (a b c d : UInt8) : putU32 (fromBeBytes a b c d) = [a, b, c, d] := by
  have := a.toNat_lt
  have := b.toNat_lt
  have := c.toNat_lt
  have := d.toNat_lt
  have byte : ∀ {n} (x : UInt8), n % 256 = x.toNat → UInt8.ofNat n = x := fun x same =>
    UInt8.toNat_inj.mp (UInt8.toNat_ofNat'.trans same)
  unfold putU32 fromBeBytes
  rw [byte a (by omega), byte b (by omega), byte c (by omega), byte d (by omega)]

/-! ## Frames -/

/-- `frame`: the flag, `payload.len() as u32`, and the payload. -/
def frame (flag : UInt8) (payload : List UInt8) : List UInt8 :=
  flag :: putU32 (payload.length % lengths) ++ payload

/-- `encode`. -/
def encode (payload : List UInt8) : List UInt8 := frame 0x00 payload

/-- `encode_compressed`. -/
def encodeCompressed (payload : List UInt8) : List UInt8 := frame 0x01 payload

/-- `decode_all`. -/
def decodeAll : List UInt8 → List DecodedFrame
  | flag :: a :: b :: c :: d :: rest =>
    let length := fromBeBytes a b c d
    if rest.length < length then []
    else ⟨flag == 0x01, rest.take length⟩ :: decodeAll (rest.drop length)
  | _ => []
termination_by data => data.length
decreasing_by
  simp only [List.length_drop, List.length_cons]
  omega

/-- One round of its loop. -/
def next : List UInt8 → Option (DecodedFrame × List UInt8)
  | flag :: a :: b :: c :: d :: rest =>
    let length := fromBeBytes a b c d
    if rest.length < length then none
    else some (⟨flag == 0x01, rest.take length⟩, rest.drop length)
  | _ => none

/-- All that a round can read. -/
theorem next_iff {data rest : List UInt8} {message : DecodedFrame} :
    next data = some (message, rest) ↔ ∃ flag a b c d,
      data = flag :: a :: b :: c :: d :: (message.payload ++ rest) ∧
      message.compressed = (flag == 0x01) ∧
      message.payload.length = fromBeBytes a b c d := by
  constructor
  · intro read
    rcases data with _ | ⟨flag, _ | ⟨a, _ | ⟨b, _ | ⟨c, _ | ⟨d, tail⟩⟩⟩⟩⟩
    · cases read
    · cases read
    · cases read
    · cases read
    · cases read
    · simp only [next] at read
      split at read
      · cases read
      · next enough =>
        cases read
        refine ⟨flag, a, b, c, d, ?_, rfl, ?_⟩
        · rw [List.take_append_drop]
        · exact List.length_take_of_le (Nat.le_of_not_lt enough)
  · rintro ⟨flag, a, b, c, d, rfl, compressed, length⟩
    have enough : ¬ (message.payload ++ rest).length < message.payload.length := by
      rw [List.length_append]
      exact Nat.not_lt.mpr (Nat.le_add_right _ _)
    simp only [next, ← length, if_neg enough, List.take_left', List.drop_left', ← compressed]

/-- The messages of a body, read one at a time. -/
def reader : Reader UInt8 DecodedFrame where
  next := next
  shorter read := by
    obtain ⟨flag, a, b, c, d, rfl, -, -⟩ := next_iff.mp read
    simp only [List.length_cons, List.length_append]
    omega
  onwards read more := by
    obtain ⟨flag, a, b, c, d, rfl, compressed, length⟩ := next_iff.mp read
    refine next_iff.mpr ⟨flag, a, b, c, d, ?_, compressed, length⟩
    simp only [List.cons_append, List.append_assoc]

theorem decodeAll_eq (data : List UInt8) : decodeAll data = (reader.readAll data).1 := by
  fun_induction decodeAll data with
  | case1 flag a b c d rest length short =>
    have read : reader.next (flag :: a :: b :: c :: d :: rest) = none := if_pos short
    rw [Reader.readAll_of_none read]
  | case2 flag a b c d rest length enough ih =>
    have read : reader.next (flag :: a :: b :: c :: d :: rest) =
        some (⟨flag == 0x01, rest.take length⟩, rest.drop length) := if_neg enough
    rw [Reader.readAll_of_some read, ih]
  | case3 data other =>
    have read : reader.next data = none := by
      refine Option.eq_none_iff_forall_ne_some.mpr fun pair read => ?_
      obtain ⟨flag, a, b, c, d, is, -, -⟩ := next_iff.mp read
      exact other flag a b c d _ is
    rw [Reader.readAll_of_none read]

/-! ## Messages and their frames -/

/-- How a message is written. -/
def write : DecodedFrame → List UInt8
  | ⟨false, payload⟩ => encode payload
  | ⟨true, payload⟩ => encodeCompressed payload

/-- The length of the payload fits the prefix. -/
def Fits (message : DecodedFrame) : Prop := message.payload.length < lengths

/-- The bytes are a whole frame with this message. Every flag but 1 means uncompressed. -/
def IsFrame (message : DecodedFrame) (bytes : List UInt8) : Prop :=
  ∃ flag, bytes = frame flag message.payload ∧ message.compressed = (flag == 0x01) ∧ Fits message

theorem write_eq (message : DecodedFrame) :
    ∃ flag, write message = frame flag message.payload ∧ message.compressed = (flag == 0x01) := by
  obtain ⟨compressed, payload⟩ := message
  cases compressed with
  | false => exact ⟨0x00, rfl, rfl⟩
  | true => exact ⟨0x01, rfl, rfl⟩

/-- A frame is read back, whatever follows it. -/
theorem next_frame {message : DecodedFrame} {flag : UInt8} (fits : Fits message)
    (compressed : message.compressed = (flag == 0x01)) (rest : List UInt8) :
    next (frame flag message.payload ++ rest) = some (message, rest) := by
  refine next_iff.mpr ⟨flag, _, _, _, _, rfl, compressed, ?_⟩
  rw [fromBeBytes_putU32, Nat.mod_mod, Nat.mod_eq_of_lt fits]

/-- What is read is a frame. -/
theorem isFrame_of_next (data : List UInt8) (message : DecodedFrame) (rest : List UInt8)
    (read : reader.next data = some (message, rest)) :
    ∃ front, IsFrame message front ∧ data = front ++ rest := by
  obtain ⟨flag, a, b, c, d, rfl, compressed, length⟩ := next_iff.mp read
  have fits : message.payload.length < lengths := length ▸ fromBeBytes_lt a b c d
  refine ⟨frame flag message.payload, ⟨flag, rfl, compressed, fits⟩, ?_⟩
  rw [frame, Nat.mod_eq_of_lt fits, length, putU32_fromBeBytes]
  rfl

theorem decodeAll_writes {messages : List DecodedFrame} (fit : ∀ message ∈ messages, Fits message)
    (rest : List UInt8) :
    decodeAll (messages.flatMap write ++ rest) = messages ++ decodeAll rest := by
  have reads : ∀ message ∈ messages, ∀ rest,
      reader.next (write message ++ rest) = some (message, rest) := by
    intro message member rest
    obtain ⟨flag, written, compressed⟩ := write_eq message
    rw [written]
    exact next_frame (fit message member) compressed rest
  rw [decodeAll_eq, decodeAll_eq, Reader.readAll_writes reads rest]

theorem decodeAll_writes_only {messages : List DecodedFrame}
    (fit : ∀ message ∈ messages, Fits message) :
    decodeAll (messages.flatMap write) = messages := by
  have all := decodeAll_writes fit []
  rw [List.append_nil, decodeAll_eq [], Reader.readAll_of_none rfl, List.append_nil] at all
  exact all

/-- The body is that of the frames that are read, followed by a part of one more at most. -/
theorem decodeAll_sound (data : List UInt8) :
    ∃ fronts, List.Forall₂ IsFrame (decodeAll data) fronts ∧
      data = fronts.flatten ++ (reader.readAll data).2 := by
  rw [decodeAll_eq]
  exact Reader.readAll_sound isFrame_of_next data

theorem fits_of_decodeAll (data : List UInt8) : ∀ message ∈ decodeAll data, Fits message := by
  rw [decodeAll_eq]
  refine Reader.forall_mem_readAll (fun data message rest read => ?_) data
  obtain ⟨front, ⟨flag, -, -, fits⟩, -⟩ := isFrame_of_next data message rest read
  exact fits

end GrpcFrame

open GrpcFrame

/-! ## The peer -/

/-- `PeerBehaviour`: how a peer answers. -/
inductive PeerBehaviour where
  | echo
  | reply (payload : List UInt8)
  | delay (wait : Duration)
  | replyCompressed (encoding : Option String) (payload : List UInt8)
  | replyStatus (status : String) (message : Option String) (retryAfterSecs : Option UInt64)
  | replyRaw (body : List UInt8) (encoding : Option String)

namespace PeerServer

/-- The messages of a request, as `answer` records them. -/
def recorded (body : List UInt8) : List DecodedFrame := decodeAll body

/-- The body of the answer to a request. -/
def reply (body : List UInt8) : PeerBehaviour → List UInt8
  | .reply payload => encode payload
  | .replyCompressed _ payload => encodeCompressed payload
  | .replyRaw raw _ => raw
  | .replyStatus _ _ _ => []
  | .echo | .delay _ => (recorded body).flatMap fun message => encode message.payload

end PeerServer

/-- What a client is sent back by a peer that echoes: every complete message of its request,
in order and uncompressed. -/
theorem echoed_messages (body : List UInt8) :
    decodeAll (PeerServer.reply body .echo) =
      (decodeAll body).map fun message => ⟨false, message.payload⟩ := by
  let echoed := (decodeAll body).map fun message => { message with compressed := false }
  have fit : ∀ message ∈ echoed, Fits message := by
    intro message member
    obtain ⟨sent, there, rfl⟩ := List.mem_map.mp member
    exact fits_of_decodeAll body sent there
  have written : PeerServer.reply body .echo = echoed.flatMap write := by
    rw [List.flatMap_map]
    rfl
  rw [written, decodeAll_writes_only fit]

/-- Messages that are written one behind the other are read back exactly when the length of
each fits its prefix, and then whatever follows them is read as it is by itself. Any bytes
are frames, whose messages are what is read, and then a rest that is no frame yet: what
comes later is read behind it. So a client gets every complete message of its request back
from a peer that echoes. -/
theorem frames_round_trip :
    (∀ messages, decodeAll (messages.flatMap write) = messages ↔
      ∀ message ∈ messages, Fits message) ∧
    (∀ messages rest, (∀ message ∈ messages, Fits message) →
      decodeAll (messages.flatMap write ++ rest) = messages ++ decodeAll rest) ∧
    (∀ data, ∃ fronts rest, data = fronts.flatten ++ rest ∧
      List.Forall₂ IsFrame (decodeAll data) fronts ∧ decodeAll rest = [] ∧
      ∀ more, decodeAll (data ++ more) = decodeAll data ++ decodeAll (rest ++ more)) ∧
    ∀ body, decodeAll (PeerServer.reply body .echo) =
      (decodeAll body).map fun message => ⟨false, message.payload⟩ := by
  refine ⟨fun messages => ⟨fun same => ?_, fun fit => ?_⟩,
    fun messages rest fit => decodeAll_writes fit rest, fun data => ?_, echoed_messages⟩
  · rw [← same]
    exact fits_of_decodeAll _
  · exact decodeAll_writes_only fit
  · obtain ⟨fronts, frames, split⟩ := decodeAll_sound data
    refine ⟨fronts, (reader.readAll data).2, split, frames, ?_, fun more => ?_⟩
    · rw [decodeAll_eq, Reader.readAll_of_none (Reader.next_left data)]
    · rw [decodeAll_eq, decodeAll_eq data, decodeAll_eq (_ ++ more), Reader.readAll_append]

/-- Two messages, and the beginning of a third one. -/
example : decodeAll ([⟨false, [7]⟩, ⟨true, [8, 9]⟩].flatMap write ++ [0, 0, 0, 0, 2, 5]) =
    [⟨false, [7]⟩, ⟨true, [8, 9]⟩] := by decide +kernel

end GrpcEgress
