import Mathlib.Control.Monad.Basic

/-!
# Values of the call contract

The values every layer of the egress speaks in: status codes, the four kinds of
failed call, a call's options and metadata, and a `Duration`. They come from the
contract crate the workspace depends on; this module keeps the data that the
modelled functions read or build, and nothing else.

A `Duration` is a whole number of nanoseconds that fits the 64-bit seconds and
32-bit nanoseconds of the standard library, so the bound is a field of the type
and `checkedAdd` fails exactly when the sum does not fit.
-/

namespace GrpcEgress

/-! ## Status codes and failures -/

/-- The gRPC status codes. -/
inductive StatusCode where
  | ok | cancelled | unknown | invalidArgument | deadlineExceeded | notFound
  | alreadyExists | permissionDenied | resourceExhausted | failedPrecondition
  | aborted | outOfRange | unimplemented | internal | unavailable | dataLoss
  | unauthenticated
deriving DecidableEq, Repr

/-- `Metadata`: text entries in the order they were added, keys repeated or not,
and binary entries. -/
structure Metadata where
  text : List (String × String)
  binary : List (String × List UInt8)
deriving DecidableEq, Repr

/-- `Metadata::default()`. -/
def Metadata.empty : Metadata := ⟨[], []⟩

/-- `CallError`: a call that did not reach or come back from the peer
(`transport`), the peer's own answer (`status`), and a message that could not be
written or read. -/
inductive CallError where
  | transport (path : String) (code : StatusCode) (reason : String)
  | status (path : String) (code : StatusCode) (message : String) (trailers : Metadata)
  | encode (reason : String)
  | decode (reason : String)
deriving DecidableEq, Repr

/-- The error of a policy that cannot work: `RetryError::InvalidConfig` and
`BreakerError::InvalidConfig`. -/
inductive PolicyError where
  | invalidConfig (reason : String)
deriving DecidableEq, Repr

/-- The counters that the policies are built with are positive. -/
theorem u32_one_ne_zero : (1 : UInt32) ≠ 0 := by decide

theorem u32_five_ne_zero : (5 : UInt32) ≠ 0 := by decide

/-! ## Durations -/

namespace Duration

/-- The nanoseconds of `Duration::MAX`: `u64::MAX` seconds and 999999999 nanoseconds. -/
def maxNanos : Nat := (UInt64.size - 1) * 1000000000 + 999999999

end Duration

/-- `std::time::Duration`, in nanoseconds. -/
structure Duration where
  nanos : Nat
  le_max : nanos ≤ Duration.maxNanos
deriving DecidableEq

namespace Duration

/-- `Duration::ZERO`. -/
def zero : Duration := ⟨0, Nat.zero_le _⟩

/-- `Duration::is_zero`. -/
def isZero (d : Duration) : Bool := d.nanos == 0

/-- `Duration::checked_sub`: nothing when the result would be negative. -/
def checkedSub (a b : Duration) : Option Duration :=
  if b.nanos ≤ a.nanos then some ⟨a.nanos - b.nanos, Nat.le_trans (Nat.sub_le _ _) a.le_max⟩
  else none

/-- `Duration::checked_add`: nothing when the sum is above `Duration::MAX`. -/
def checkedAdd (a b : Duration) : Option Duration :=
  if h : a.nanos + b.nanos ≤ maxNanos then some ⟨a.nanos + b.nanos, h⟩ else none

/-- `Duration::from_secs`: every 64-bit number of seconds fits. -/
def fromSecs (secs : UInt64) : Duration :=
  ⟨secs.toNat * 1000000000, by
    have h := secs.toNat_lt
    simp only [maxNanos, UInt64.size]
    omega⟩

@[ext]
theorem ext {a b : Duration} (h : a.nanos = b.nanos) : a = b := by
  cases a
  cases b
  cases h
  rfl

@[simp]
theorem isZero_iff {d : Duration} : d.isZero = true ↔ d.nanos = 0 := by
  simp [isZero]

theorem checkedSub_eq_some {a b d : Duration} :
    a.checkedSub b = some d ↔ b.nanos ≤ a.nanos ∧ d.nanos = a.nanos - b.nanos := by
  unfold checkedSub
  split
  · next h =>
    simp only [Option.some.injEq]
    exact ⟨fun he => ⟨h, he ▸ rfl⟩, fun he => Duration.ext he.2.symm⟩
  · next h => simp [h]

theorem checkedSub_eq_none {a b : Duration} :
    a.checkedSub b = none ↔ a.nanos < b.nanos := by
  unfold checkedSub
  split
  · next h => exact ⟨fun he => (by cases he), fun hlt => absurd h (Nat.not_le.mpr hlt)⟩
  · next h => exact ⟨fun _ => Nat.not_le.mp h, fun _ => rfl⟩

theorem checkedAdd_eq_some {a b d : Duration} :
    a.checkedAdd b = some d ↔ d.nanos = a.nanos + b.nanos := by
  unfold checkedAdd
  split
  · next h =>
    simp only [Option.some.injEq]
    exact ⟨fun he => he ▸ rfl, fun he => Duration.ext he.symm⟩
  · next h =>
    have hd := d.le_max
    simp only [reduceCtorEq, false_iff]
    omega

theorem checkedAdd_eq_none {a b : Duration} :
    a.checkedAdd b = none ↔ maxNanos < a.nanos + b.nanos := by
  unfold checkedAdd
  split
  · next h => exact ⟨fun he => (by cases he), fun hlt => absurd h (Nat.not_le.mpr hlt)⟩
  · next h => exact ⟨fun _ => Nat.not_le.mp h, fun _ => rfl⟩

end Duration

/-! ## Calls -/

/-- `CallKind`: the four shapes of an RPC. -/
inductive CallKind where
  | unary | serverStream | clientStream | bidiStream
deriving DecidableEq, Repr

/-- `CallOptions`: what a call carries besides its message. -/
structure CallOptions where
  timeout : Option Duration
  metadata : Metadata
deriving DecidableEq

/-- `CallRequest` and `CallServerStreamRequest`: a typed call with one message. -/
structure CallRequest (μ : Type) where
  message : μ
  options : CallOptions
deriving DecidableEq

/-- `CallClientStreamRequest` and `CallBidiStreamRequest`: a typed call with a
stream of messages. -/
structure CallClientStreamRequest (σ : Type) where
  requests : σ
  options : CallOptions
deriving DecidableEq

/-- `CallRawRequest` and `CallRawServerStreamRequest`. -/
structure CallRawRequest where
  path : String
  message : List UInt8
  options : CallOptions
deriving DecidableEq

/-- `CallRawClientStreamRequest` and `CallRawBidiStreamRequest`. -/
structure CallRawClientStreamRequest (σ : Type) where
  path : String
  requests : σ
  options : CallOptions
deriving DecidableEq

end GrpcEgress
