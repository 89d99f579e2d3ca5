import GrpcEgress.Health.Payloads

/-!
# Health payloads round-trip

What `encode_into` appends is one field, or nothing for a default value, and a message of
the wire format either way. So the decoders read it back.

Result: `health_payloads_round_trip`.
-/

namespace GrpcEgress

open Varint Wire HealthProtoCodec

/-- `isize::MAX`: a string or a vector has no more bytes. -/
def isizeMax : Nat := USize.size / 2 - 1

/-- `encode_into` leaves `out` in front and appends bytes, as many as estimated, that decode
to the value. -/
def RoundTrips {μ : Type} (encodeInto : μ → List UInt8 → Except Empty (List UInt8))
    (estimate : μ → Nat) (decode : List UInt8 → Except DecodeError μ) (value : μ)
    (out : List UInt8) : Prop :=
  ∃ appended, encodeInto value out = .ok (out ++ appended) ∧ decode appended = .ok value ∧
    appended.length = estimate value

theorem one_le_maxNumber : 1 ≤ maxNumber := by decide

/-- What has eleven bytes besides a string can be addressed. -/
theorem lt_size {n : Nat} (fits : n ≤ isizeMax + 11) : n < USize.size := by
  have size := USize.le_size
  unfold isizeMax at fits
  omega

/-- A key of one byte. -/
theorem length_encoded_key {key : UInt64} (small : key.toNat < 128) : (encoded key).length = 1 := by
  rw [encoded_small]
  · rfl
  · exact fun large => Nat.not_le.mpr small (UInt64.le_iff_toNat_le.mp large)

namespace HealthCheckRequest

theorem length_asBytes (service : String) : (asBytes service).length = service.utf8ByteSize := by
  unfold asBytes
  simp

theorem fromUTF8_asBytes (service : String) :
    String.fromUTF8? (asBytes service).toByteArray = some service := by
  have same : (asBytes service).toByteArray = service.toByteArray := by
    unfold asBytes
    simp [ByteArray.ext_iff]
  rw [same, String.fromUTF8?, dif_pos service.isValidUTF8]
  rfl

/-- The field that holds a service, on the wire. -/
theorem isField_service {service : String} (fits : service.utf8ByteSize ≤ isizeMax) :
    IsField (encoded 0x0a ++ (encoded (UInt64.ofNat service.utf8ByteSize) ++ asBytes service))
      ⟨1, .delimited (asBytes service)⟩ := by
  have small : service.utf8ByteSize < 2 ^ 64 := by
    have size := USize.size_le
    unfold isizeMax at fits
    omega
  refine .mk (isVarint_encoded 0x0a) ⟨rfl, Nat.le_refl 1, one_le_maxNumber⟩
    (.delimited (isVarint_encoded _) ?_)
  rw [length_asBytes, toNat_ofNat small]

theorem encodeInto_of_ne {ε : Type} {service : String} (named : ¬ service.isEmpty)
    (out : List UInt8) : (encodeInto ⟨service⟩ out : Except ε (List UInt8)) =
      .ok (out ++ (encoded 0x0a ++
        (encoded (UInt64.ofNat service.utf8ByteSize) ++ asBytes service))) := by
  rw [encodeInto, if_neg named]
  show Except.ok (writeVarint (writeVarint out 0x0a) _ ++ asBytes service) = _
  rw [writeVarint_eq, writeVarint_eq out, List.append_assoc, List.append_assoc]

theorem length_field (service : String) : (encoded 0x0a ++
    (encoded (UInt64.ofNat service.utf8ByteSize) ++ asBytes service)).length =
      1 + varintLen (UInt64.ofNat service.utf8ByteSize) + service.utf8ByteSize := by
  rw [List.length_append, List.length_append, length_encoded_key (by decide), length_asBytes,
    varintLen_eq, Nat.add_assoc]

/-- A request is read back, over whatever is in the buffer. -/
theorem roundTrips (request : HealthCheckRequest) (out : List UInt8)
    (fits : request.service.utf8ByteSize ≤ isizeMax) :
    RoundTrips encodeInto estimateEncodedLen decode request out := by
  obtain ⟨service⟩ := request
  by_cases empty : service.isEmpty
  · refine ⟨[], ?_, (decode_ok (lt_size (Nat.zero_le _)) _).mpr ⟨[], .nil, nofun, ?_⟩, ?_⟩
    · rw [encodeInto, if_pos empty, List.append_nil]
    · rw [String.isEmpty_iff.mp empty]
      rfl
    · rw [estimateEncodedLen, if_pos empty]
      rfl
  · have ten := encoded_length_le_ten (UInt64.ofNat service.utf8ByteSize)
    have length := length_field service
    refine ⟨_, encodeInto_of_ne empty out, ?_, length.trans (if_neg empty).symm⟩
    refine (decode_ok (lt_size ?_) _).mpr ⟨_, .singleton (isField_service fits), ?_, ?_⟩
    · rw [length, varintLen_eq]
      have bound : service.utf8ByteSize ≤ isizeMax := fits
      omega
    · intro content member
      cases List.mem_singleton.mp member
      exact isSome_tells.mp (Option.isSome_iff_exists.mpr ⟨_, fromUTF8_asBytes service⟩)
    · have said : tells ⟨1, .delimited (asBytes service)⟩ = some service := fromUTF8_asBytes service
      rw [lastOr_cons, said]
      rfl

end HealthCheckRequest

namespace HealthCheckResponse

/-- The low 32 bits of a status are the status. -/
theorem toInt32_statusBits (status : Int32) :
    (statusBits status).toUInt32.toInt32 = status := by
  have same : (statusBits status).toUInt32.toInt32 = status.toInt64.toInt32 := by
    refine Int32.toBitVec_inj.mp ?_
    show (status.toBitVec.signExtend 64).setWidth 32 =
      (status.toBitVec.signExtend 64).signExtend 32
    exact (BitVec.signExtend_eq_setWidth_of_le _ (by decide)).symm
  rw [same, Int32.toInt32_toInt64]

/-- The field that holds a status, on the wire. -/
theorem isField_status (status : Int32) :
    IsField (encoded 0x08 ++ encoded (statusBits status)) ⟨1, .varint (statusBits status)⟩ :=
  .mk (isVarint_encoded 0x08) ⟨rfl, Nat.le_refl 1, one_le_maxNumber⟩ (.varint (isVarint_encoded _))

theorem encodeInto_of_ne {ε : Type} {status : Int32} (told : ¬ status = 0) (out : List UInt8) :
    (encodeInto ⟨status⟩ out : Except ε (List UInt8)) =
      .ok (out ++ (encoded 0x08 ++ encoded (statusBits status))) := by
  rw [encodeInto, if_neg told]
  show Except.ok (writeVarint (writeVarint out 0x08) _) = _
  rw [writeVarint_eq, writeVarint_eq out, List.append_assoc]

/-- A response is read back, over whatever is in the buffer. -/
theorem roundTrips (response : HealthCheckResponse) (out : List UInt8) :
    RoundTrips encodeInto estimateEncodedLen decode response out := by
  obtain ⟨status⟩ := response
  by_cases unknown : status = 0
  · subst unknown
    refine ⟨[], ?_, (decode_ok (lt_size (Nat.zero_le _)) _).mpr ⟨[], .nil, rfl⟩, rfl⟩
    rw [encodeInto, if_pos rfl, List.append_nil]
  · have ten := encoded_length_le_ten (statusBits status)
    have length : (encoded 0x08 ++ encoded (statusBits status)).length =
        1 + varintLen (statusBits status) := by
      rw [List.length_append, length_encoded_key (by decide), varintLen_eq]
    refine ⟨_, encodeInto_of_ne unknown out, ?_, length.trans (if_neg unknown).symm⟩
    refine (decode_ok (lt_size ?_) _).mpr ⟨_, .singleton (isField_status status), ?_⟩
    · rw [length, varintLen_eq]
      omega
    · exact congrArg mk (toInt32_statusBits status).symm

end HealthCheckResponse

/-- Every service name and every status is read back from what was written, whatever the
buffer held, which stays in front; and as many bytes were written as estimated. -/
theorem health_payloads_round_trip :
    (∀ (request : HealthCheckRequest) (out : List UInt8),
      request.service.utf8ByteSize ≤ isizeMax →
      RoundTrips HealthCheckRequest.encodeInto HealthCheckRequest.estimateEncodedLen
        HealthCheckRequest.decode request out) ∧
    (∀ (response : HealthCheckResponse) (out : List UInt8),
      RoundTrips HealthCheckResponse.encodeInto HealthCheckResponse.estimateEncodedLen
        HealthCheckResponse.decode response out) :=
  ⟨HealthCheckRequest.roundTrips, HealthCheckResponse.roundTrips⟩

/-- A named service and a negative status, behind a byte that is there already. -/
theorem health_payloads_round_trip_named :
    RoundTrips HealthCheckRequest.encodeInto HealthCheckRequest.estimateEncodedLen
      HealthCheckRequest.decode ⟨"pkg.Service"⟩ [0x0a] ∧
    RoundTrips HealthCheckResponse.encodeInto HealthCheckResponse.estimateEncodedLen
      HealthCheckResponse.decode ⟨-1⟩ [0x0a] := by
  have short : "pkg.Service".utf8ByteSize ≤ isizeMax := by
    have size := USize.le_size
    have bytes : "pkg.Service".utf8ByteSize = 11 := by decide
    unfold isizeMax
    omega
  exact ⟨health_payloads_round_trip.1 _ _ short, health_payloads_round_trip.2 _ _⟩

example : HealthCheckResponse.estimateEncodedLen ⟨-1⟩ = 11 := by decide +kernel

end GrpcEgress
