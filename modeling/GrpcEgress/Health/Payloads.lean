import GrpcEgress.Health.Fields

/-!
# The health messages

`HealthCheckRequest` and `HealthCheckResponse` as payloads. Each has one field, and is
written without it when it has its default value. The two `decode` functions are the loop
`decodeFields`, with the wire type and the reader of that field. A loop ends because every
round reads a field, and a field is at least its key.

Result: `health_decoders_exact`. What decodes is a message of the wire format, and its value
is what the last field 1 of the message's own wire type says.
-/

namespace GrpcEgress

open Varint Cursor Wire HealthProtoReader

section Loop

variable {α : Type} {own : UInt8} {read : Reading α} {tells : Field → Option α}

/-- A round leaves less to read. -/
theorem decodeField_nearer (spec : ReadsOwn own read tells) {a b : α}
    {self self' : HealthProtoReader} (ran : decodeField own read a self = .ok (some b) self') :
    (rest self').length < (rest self).length :=
  (items_decodeField spec a).nearer (fun ⟨_, is, _⟩ => is.length_pos) ran

/-- `while let Some(..) = reader.next_field()? { .. }`, from a value. -/
def decodeFields (spec : ReadsOwn own read tells) : α → Reading α :=
  whileSome (decodeField own read) (fun self => (rest self).length) (decodeField_nearer spec)

/-- Rounds are the fields of a message. -/
theorem rounds_iff {a c : α} {bytes : List UInt8} : Rounds (OneField own tells) a bytes c ↔
    ∃ fields, IsMessage bytes fields ∧ (∀ field ∈ fields, Own own field → (tells field).isSome) ∧
      c = lastOr tells a fields := by
  constructor
  · intro rounds
    induction rounds with
    | done => exact ⟨[], .nil, nofun, rfl⟩
    | round first _ ih =>
      obtain ⟨field, is, accepted, rfl⟩ := first
      obtain ⟨fields, message, rest, rfl⟩ := ih
      exact ⟨field :: fields, .cons is message, List.forall_mem_cons.mpr ⟨accepted, rest⟩,
        (lastOr_cons _ _ _ _).symm⟩
  · rintro ⟨fields, message, accepted, rfl⟩
    induction message generalizing a with
    | nil => exact .done
    | cons is _ ih =>
      obtain ⟨first, rest⟩ := List.forall_mem_cons.mp accepted
      rw [lastOr_cons]
      exact .round ⟨_, is, first, rfl⟩ (ih rest)

/-- What the loop accepts, and the value it ends with. -/
theorem decodeFields_ok (spec : ReadsOwn own read tells) {a c : α} {self self' : HealthProtoReader}
    (ok : Cursor.valid self) : decodeFields spec a self = .ok c self' ↔
      (∃ fields, IsMessage (rest self) fields ∧
        (∀ field ∈ fields, Own own field → (tells field).isSome) ∧ c = lastOr tells a fields) ∧
      self' = advance (rest self).length self := by
  rw [← rounds_iff]
  exact whileSome_ok (items_decodeField spec) ok

/-- A decoder: the loop over all the bytes, with the value it ends with. -/
def decodeMessage (spec : ReadsOwn own read tells) (start : α) (message : String)
    (bytes : List UInt8) : Except DecodeError α :=
  match decodeFields spec start (HealthProtoCodec.reader bytes message) with
  | .ok value _ => .ok value
  | .error e _ => .error e

/-- The reader of a whole message is valid when its bytes can be addressed. -/
theorem valid_reader {bytes : List UInt8} (fits : bytes.length < USize.size) (message : String) :
    Cursor.valid (HealthProtoCodec.reader bytes message) := ⟨Nat.zero_le _, fits⟩

theorem decodeMessage_ok (spec : ReadsOwn own read tells) {start c : α} {message : String}
    {bytes : List UInt8} (fits : bytes.length < USize.size) :
    decodeMessage spec start message bytes = .ok c ↔
      ∃ fields, IsMessage bytes fields ∧
        (∀ field ∈ fields, Own own field → (tells field).isSome) ∧
        c = lastOr tells start fields := by
  have loop := fun self' =>
    @decodeFields_ok _ _ _ _ spec start c _ self' (valid_reader fits message)
  unfold decodeMessage
  constructor
  · intro ran
    cases ended : decodeFields spec start (HealthProtoCodec.reader bytes message) with
    | error e self' => rw [ended] at ran; cases ran
    | ok value self' =>
      rw [ended] at ran
      cases ran
      exact ((loop self').mp ended).1
  · intro message
    rw [(loop _).mpr ⟨message, rfl⟩]

/-- What two messages decode to after one another. -/
theorem decodeMessage_append (spec : ReadsOwn own read tells) {start : α} {message : String}
    {as bs : List UInt8} (fits : (as ++ bs).length < USize.size) {first second : α}
    {fields : List Field} (one : decodeMessage spec start message as = .ok first)
    (two : decodeMessage spec start message bs = .ok second) (is : IsMessage bs fields) :
    ((∃ field ∈ fields, Own own field) →
      decodeMessage spec start message (as ++ bs) = .ok second) ∧
    ((¬ ∃ field ∈ fields, Own own field) →
      decodeMessage spec start message (as ++ bs) = .ok first) := by
  have lengths : (as ++ bs).length = as.length + bs.length := List.length_append
  obtain ⟨front, is_first, accepted, rfl⟩ := (decodeMessage_ok spec (by omega)).mp one
  obtain ⟨back, is_back, accepted', rfl⟩ := (decodeMessage_ok spec (by omega)).mp two
  obtain rfl := is_back.unique is
  have whole : decodeMessage spec start message (as ++ bs) =
      .ok (lastOr tells (lastOr tells start front) back) :=
    (decodeMessage_ok spec fits).mpr ⟨front ++ back, is_first.append is_back,
      List.forall_mem_append.mpr ⟨accepted, accepted'⟩, (lastOr_append _ _ _ _).symm⟩
  rw [whole]
  constructor
  · rintro ⟨field, member, mine⟩
    exact congrArg _ (lastOr_of_tells ⟨field, member, accepted' field member mine⟩ _ _)
  · intro none
    refine congrArg _ (lastOr_of_not_tells ?_ _)
    rintro ⟨field, member, said⟩
    obtain ⟨b, said⟩ := Option.isSome_iff_exists.mp said
    exact none ⟨field, member, spec.tells_own said⟩

/-- At the top of every round the offset has not passed the end. A round that reads a field
moves it forward, and neither a round nor a failure moves it past the end. -/
def OffsetsGrow (own : UInt8) (read : Reading α) (start : α) (bytes : List UInt8)
    (message : String) : Prop :=
  ∀ value self,
    Tops (decodeField own read) start (HealthProtoCodec.reader bytes message) value self →
    self.offset ≤ bytes.length ∧
    (∀ next self', decodeField own read value self = .ok (some next) self' →
      self.offset < self'.offset ∧ self'.offset ≤ bytes.length) ∧
    (∀ e self', decodeField own read value self = .error e self' →
      self.offset ≤ self'.offset ∧ self'.offset ≤ bytes.length)

theorem offsetsGrow (spec : ReadsOwn own read tells) (start : α) {bytes : List UInt8}
    (fits : bytes.length < USize.size) (message : String) :
    OffsetsGrow own read start bytes message := by
  intro value self top
  have ok := top.valid (items_decodeField spec) (valid_reader fits message)
  obtain ⟨n, rfl⟩ := top.advanced (items_decodeField spec)
  refine ⟨ok.1, fun next self' ran => ?_, fun e self' ran => ?_⟩
  · obtain ⟨front, read, ⟨field, is, -⟩, rfl⟩ := (items_decodeField spec value).sound ran
    exact ⟨Nat.lt_add_of_pos_right is.length_pos, (valid_advance _ _ ok read.length_le).1⟩
  · obtain ⟨m, inside, rfl⟩ := (items_decodeField spec value).fails ran
    exact ⟨Nat.le_add_right _ _, (valid_advance _ _ ok inside).1⟩

end Loop

theorem exists_eq_mem {γ : Type} {f : γ → Field} {fields : List Field} :
    (∃ field ∈ fields, ∃ c, field = f c) ↔ ∃ c, f c ∈ fields := by
  constructor
  · rintro ⟨_, member, c, rfl⟩
    exact ⟨c, member⟩
  · rintro ⟨c, member⟩
    exact ⟨_, member, c, rfl⟩

/-! ## The request -/

/-- `HealthCheckRequest`: the service asked about, or the empty name. -/
structure HealthCheckRequest where
  service : String
deriving DecidableEq, Repr

namespace HealthCheckRequest

/-- `FULL_NAME`. -/
def fullName : String := "grpc.health.v1.HealthCheckRequest"

/-- `as_bytes`. -/
def asBytes (service : String) : List UInt8 := service.toByteArray.data.toList

/-- `encode_into`; no request fails to be written. -/
def encodeInto {ε : Type} (self : HealthCheckRequest) (out : List UInt8) :
    Except ε (List UInt8) :=
  if self.service.isEmpty then .ok out
  else
    let out := HealthProtoCodec.writeVarint out 0x0a
    let out := HealthProtoCodec.writeVarint out (UInt64.ofNat self.service.utf8ByteSize)
    .ok (out ++ asBytes self.service)

/-- `estimate_encoded_len`. -/
def estimateEncodedLen (self : HealthCheckRequest) : Nat :=
  if self.service.isEmpty then 0
  else 1 + HealthProtoCodec.varintLen (UInt64.ofNat self.service.utf8ByteSize) +
    self.service.utf8ByteSize

/-- What is read when field 1 is length-delimited. -/
def readService : Reading String := do
  let value ← readLengthDelimited
  match String.fromUTF8? value.toByteArray with
  | some service => return service
  | none => throw ⟨fullName, "service is not valid UTF-8"⟩

/-- The service a field names, if it is the field of the service. -/
def tells : Field → Option String
  | ⟨1, .delimited content⟩ => String.fromUTF8? content.toByteArray
  | _ => none

theorem own_iff {field : Field} : Own 2 field ↔ ∃ content, field = ⟨1, .delimited content⟩ := by
  constructor
  · rcases field with ⟨number, _ | _ | content | _⟩ <;> rintro ⟨one, wire⟩ <;> cases one <;>
      first | exact ⟨content, rfl⟩ | cases wire
  · rintro ⟨content, rfl⟩
    exact ⟨rfl, rfl⟩

theorem readsOwn_service : ReadsOwn 2 readService tells where
  reads := by
    refine (reads_delimited.bind (M := fun content front service =>
      front = [] ∧ String.fromUTF8? content.toByteArray = some service) fun content => ?_).congr ?_
    · cases String.fromUTF8? content.toByteArray with
      | some service => exact (Reads.pure service).congr fun _ _ => by simp
      | none =>
        refine Reads.congr (Reads.refuse fun _ =>
          (⟨fullName, "service is not valid UTF-8"⟩ : DecodeError)) fun _ _ => ?_
        simp
    · intro front service
      constructor
      · rintro ⟨front, _, content, rfl, held, rfl, text⟩
        exact ⟨.delimited content, (List.append_nil front).symm ▸ held, text⟩
      · rintro ⟨payload, held, said⟩
        cases payload with
        | delimited content =>
          exact ⟨front, [], content, (List.append_nil front).symm, held, rfl, said⟩
        | _ => cases said
  tells_own := by
    intro field service said
    unfold tells at said
    split at said
    · exact ⟨rfl, rfl⟩
    · cases said

/-- `decode`. -/
def decode (bytes : List UInt8) : Except DecodeError HealthCheckRequest :=
  (decodeMessage readsOwn_service "" fullName bytes).map mk

theorem decode_iff {bytes : List UInt8} {service : String} : decode bytes = .ok ⟨service⟩ ↔
    decodeMessage readsOwn_service "" fullName bytes = .ok service := by
  unfold decode
  cases decodeMessage readsOwn_service "" fullName bytes <;> simp [Except.map]

theorem isSome_tells {content : List UInt8} : (tells ⟨1, .delimited content⟩).isSome ↔
    content.toByteArray.IsValidUTF8 := by
  show (String.fromUTF8? content.toByteArray).isSome ↔ _
  unfold String.fromUTF8?
  split <;> simp [*]

/-- What a request is decoded from. -/
theorem decode_ok {bytes : List UInt8} (fits : bytes.length < USize.size)
    (request : HealthCheckRequest) : decode bytes = .ok request ↔
      ∃ fields, IsMessage bytes fields ∧
        (∀ content, ⟨1, .delimited content⟩ ∈ fields → content.toByteArray.IsValidUTF8) ∧
        request = ⟨lastOr tells "" fields⟩ := by
  have accepted : ∀ fields : List Field, (∀ field ∈ fields, Own 2 field → (tells field).isSome) ↔
      ∀ content, ⟨1, .delimited content⟩ ∈ fields → content.toByteArray.IsValidUTF8 := by
    intro fields
    constructor
    · intro all content member
      exact isSome_tells.mp (all _ member (own_iff.mpr ⟨content, rfl⟩))
    · intro all field member mine
      obtain ⟨content, rfl⟩ := own_iff.mp mine
      exact isSome_tells.mpr (all content member)
  obtain ⟨service⟩ := request
  rw [decode_iff, decodeMessage_ok readsOwn_service fits]
  simp only [accepted, mk.injEq]

/-- What two requests decode to after one another. -/
theorem decode_append {as bs : List UInt8} (fits : (as ++ bs).length < USize.size)
    {first second : HealthCheckRequest} {fields : List Field} (one : decode as = .ok first)
    (two : decode bs = .ok second) (is : IsMessage bs fields) :
    ((∃ content, ⟨1, .delimited content⟩ ∈ fields) → decode (as ++ bs) = .ok second) ∧
    ((¬ ∃ content, ⟨1, .delimited content⟩ ∈ fields) → decode (as ++ bs) = .ok first) := by
  obtain ⟨first⟩ := first
  obtain ⟨second⟩ := second
  have contains : (∃ field ∈ fields, Own 2 field) ↔
      ∃ content, ⟨1, .delimited content⟩ ∈ fields := by
    simp only [own_iff, exists_eq_mem]
  rw [decode_iff, decode_iff, ← contains]
  exact decodeMessage_append readsOwn_service fits (decode_iff.mp one) (decode_iff.mp two) is

end HealthCheckRequest

/-! ## The response -/

/-- `HealthCheckResponse`: the numeric status. -/
structure HealthCheckResponse where
  status : Int32
deriving DecidableEq, Repr

namespace HealthCheckResponse

/-- `FULL_NAME`. -/
def fullName : String := "grpc.health.v1.HealthCheckResponse"

/-- `self.status as i64 as u64`. -/
def statusBits (status : Int32) : UInt64 := status.toInt64.toUInt64

/-- `encode_into`; no response fails to be written. -/
def encodeInto {ε : Type} (self : HealthCheckResponse) (out : List UInt8) :
    Except ε (List UInt8) :=
  if self.status = 0 then .ok out
  else
    let out := HealthProtoCodec.writeVarint out 0x08
    .ok (HealthProtoCodec.writeVarint out (statusBits self.status))

/-- `estimate_encoded_len`. -/
def estimateEncodedLen (self : HealthCheckResponse) : Nat :=
  if self.status = 0 then 0 else 1 + HealthProtoCodec.varintLen (statusBits self.status)

/-- What is read when field 1 is a varint: its low 32 bits. -/
def readStatus : Reading Int32 := do
  let value ← readVarint
  return value.toUInt32.toInt32

/-- The status a field tells, if it is the field of the status. -/
def tells : Field → Option Int32
  | ⟨1, .varint value⟩ => some value.toUInt32.toInt32
  | _ => none

theorem own_iff {field : Field} : Own 0 field ↔ ∃ value, field = ⟨1, .varint value⟩ := by
  constructor
  · rcases field with ⟨number, value | _ | _ | _⟩ <;> rintro ⟨one, wire⟩ <;> cases one <;>
      first | exact ⟨value, rfl⟩ | cases wire
  · rintro ⟨value, rfl⟩
    exact ⟨rfl, rfl⟩

theorem readsOwn_status : ReadsOwn 0 readStatus tells where
  reads := by
    refine (reads_varint.map fun value => value.toUInt32.toInt32).congr fun front status => ?_
    constructor
    · rintro ⟨value, form, rfl⟩
      exact ⟨.varint value, .varint form, rfl⟩
    · rintro ⟨payload, held, said⟩
      cases held with
      | varint form => exact ⟨_, form, Option.some.inj said⟩
      | _ => cases said
  tells_own := by
    intro field status said
    unfold tells at said
    split at said
    · exact ⟨rfl, rfl⟩
    · cases said

/-- `decode`. -/
def decode (bytes : List UInt8) : Except DecodeError HealthCheckResponse :=
  (decodeMessage readsOwn_status 0 fullName bytes).map mk

theorem decode_iff {bytes : List UInt8} {status : Int32} : decode bytes = .ok ⟨status⟩ ↔
    decodeMessage readsOwn_status 0 fullName bytes = .ok status := by
  unfold decode
  cases decodeMessage readsOwn_status 0 fullName bytes <;> simp [Except.map]

/-- What a response is decoded from. -/
theorem decode_ok {bytes : List UInt8} (fits : bytes.length < USize.size)
    (response : HealthCheckResponse) : decode bytes = .ok response ↔
      ∃ fields, IsMessage bytes fields ∧ response = ⟨lastOr tells 0 fields⟩ := by
  have accepted : ∀ fields : List Field,
      (∀ field ∈ fields, Own 0 field → (tells field).isSome) ↔ True := by
    refine fun fields => iff_true_intro fun field _ mine => ?_
    obtain ⟨value, rfl⟩ := own_iff.mp mine
    rfl
  obtain ⟨status⟩ := response
  rw [decode_iff, decodeMessage_ok readsOwn_status fits]
  simp only [accepted, true_and, mk.injEq]

/-- What two responses decode to after one another. -/
theorem decode_append {as bs : List UInt8} (fits : (as ++ bs).length < USize.size)
    {first second : HealthCheckResponse} {fields : List Field} (one : decode as = .ok first)
    (two : decode bs = .ok second) (is : IsMessage bs fields) :
    ((∃ value, ⟨1, .varint value⟩ ∈ fields) → decode (as ++ bs) = .ok second) ∧
    ((¬ ∃ value, ⟨1, .varint value⟩ ∈ fields) → decode (as ++ bs) = .ok first) := by
  obtain ⟨first⟩ := first
  obtain ⟨second⟩ := second
  have contains : (∃ field ∈ fields, Own 0 field) ↔ ∃ value, ⟨1, .varint value⟩ ∈ fields := by
    simp only [own_iff, exists_eq_mem]
  rw [decode_iff, decode_iff, ← contains]
  exact decodeMessage_append readsOwn_status fits (decode_iff.mp one) (decode_iff.mp two) is

end HealthCheckResponse

/-! ## Both decoders -/

/-- What decodes is a message of the wire format in which every field 1 of type
length-delimited is text, in the case of the request. The value is what the last field 1 of
the message's own wire type says, or the default. At the top of every round the offset has
not passed the end, every round moves it forward, and nothing moves it past the end. So
what two messages decode to after one another is what the second says, or else the first. -/
theorem health_decoders_exact {bytes : List UInt8} (fits : bytes.length < USize.size) :
    ((∀ request, HealthCheckRequest.decode bytes = .ok request ↔
        ∃ fields, IsMessage bytes fields ∧
          (∀ content, ⟨1, .delimited content⟩ ∈ fields → content.toByteArray.IsValidUTF8) ∧
          request = ⟨lastOr HealthCheckRequest.tells "" fields⟩) ∧
      OffsetsGrow 2 HealthCheckRequest.readService "" bytes HealthCheckRequest.fullName ∧
      ∀ as bs first second fields, bytes = as ++ bs →
        HealthCheckRequest.decode as = .ok first → HealthCheckRequest.decode bs = .ok second →
        IsMessage bs fields →
        ((∃ content, ⟨1, .delimited content⟩ ∈ fields) →
          HealthCheckRequest.decode bytes = .ok second) ∧
        ((¬ ∃ content, ⟨1, .delimited content⟩ ∈ fields) →
          HealthCheckRequest.decode bytes = .ok first)) ∧
    ((∀ response, HealthCheckResponse.decode bytes = .ok response ↔
        ∃ fields, IsMessage bytes fields ∧
          response = ⟨lastOr HealthCheckResponse.tells 0 fields⟩) ∧
      OffsetsGrow 0 HealthCheckResponse.readStatus 0 bytes HealthCheckResponse.fullName ∧
      ∀ as bs first second fields, bytes = as ++ bs →
        HealthCheckResponse.decode as = .ok first →
        HealthCheckResponse.decode bs = .ok second → IsMessage bs fields →
        ((∃ value, ⟨1, .varint value⟩ ∈ fields) →
          HealthCheckResponse.decode bytes = .ok second) ∧
        ((¬ ∃ value, ⟨1, .varint value⟩ ∈ fields) →
          HealthCheckResponse.decode bytes = .ok first)) := by
  refine ⟨⟨HealthCheckRequest.decode_ok fits, offsetsGrow HealthCheckRequest.readsOwn_service _
    fits _, ?_⟩, HealthCheckResponse.decode_ok fits, offsetsGrow
    HealthCheckResponse.readsOwn_status _ fits _, ?_⟩
  · rintro as bs first second fields rfl one two is
    exact HealthCheckRequest.decode_append fits one two is
  · rintro as bs first second fields rfl one two is
    exact HealthCheckResponse.decode_append fits one two is

/-- A status of 42, as it is on the wire. -/
theorem health_decoders_exact_status :
    [0x08, 0x2a].length < USize.size ∧ HealthCheckResponse.decode [0x08, 0x2a] = .ok ⟨42⟩ := by
  have fits : [0x08, 0x2a].length < USize.size := Nat.lt_of_lt_of_le (by decide) USize.le_size
  have message : IsMessage [0x08, 0x2a] [⟨1, .varint 42⟩] :=
    .singleton (.mk (@isVarint_singleton 8 (by decide)) ⟨rfl, by decide, by decide⟩
      (.varint (@isVarint_singleton 42 (by decide))))
  exact ⟨fits, ((@health_decoders_exact [0x08, 0x2a] fits).2.1 _).mpr ⟨_, message, by decide⟩⟩

end GrpcEgress
