import GrpcEgress.Contract.Values

/-!
# The retry policy

`GrpcRetryConfig` and the checks of `try_new`. The policy extends the request it
is built from with what the checks establish, so a value of the type is a policy
that `try_new` accepts and nothing else is one:

1. `tryNew_toRequest`: every policy is accepted, from its own values;
2. `tryNew_request`: an accepted policy holds the request's values unchanged;
3. `tryNew_ok_iff`: a request is accepted iff it passes all six checks.
-/

namespace GrpcEgress

/-! ## The two floating-point settings -/

/-- An `f64` as far as a policy looks at it. A finite value is
`mantissa * 2 ^ exponent`; both zeros are `0 * 2 ^ 0`. -/
inductive F64 where
  | nan
  | infinite (negative : Bool)
  | finite (mantissa exponent : Int)
deriving DecidableEq, Repr

namespace F64

/-- `is_finite`. -/
def isFinite : F64 → Bool
  | .finite _ _ => true
  | _ => false

/-- `x <= 0.0`; false on a NaN. -/
def leZero : F64 → Bool
  | .nan => false
  | .infinite negative => negative
  | .finite m _ => decide (m ≤ 0)

/-- `0.0 <= x`; false on a NaN. -/
def geZero : F64 → Bool
  | .nan => false
  | .infinite negative => !negative
  | .finite m _ => decide (0 ≤ m)

/-- `x <= 1.0`; false on a NaN. -/
def leOne : F64 → Bool
  | .nan => false
  | .infinite negative => negative
  | .finite m e =>
    if 0 ≤ e then decide (m * Int.pow 2 e.toNat ≤ 1) else decide (m ≤ Int.pow 2 (-e).toNat)

/-- `(0.0..=1.0).contains(&x)`. -/
def inUnit (x : F64) : Bool := x.geZero && x.leOne

end F64

/-! ## The policy -/

/-- `BuildGrpcRetryConfigRequest`: the values of a policy before they are checked. -/
structure BuildGrpcRetryConfigRequest where
  maxAttempts : UInt32
  initialBackoffMs : UInt64
  backoffMultiplier : F64
  jitterFactor : F64
  maxBackoffMs : UInt64
  rateLimitMaxAttempts : UInt32
  rateLimitInitialBackoffMs : UInt64
  rateLimitMaxBackoffMs : UInt64
deriving DecidableEq

/-- `GrpcRetryConfig`: a checked policy. -/
structure GrpcRetryConfig extends BuildGrpcRetryConfigRequest where
  maxAttempts_pos : maxAttempts ≠ 0
  rateLimitMaxAttempts_pos : rateLimitMaxAttempts ≠ 0
  multiplier_ok : (backoffMultiplier.leZero || !backoffMultiplier.isFinite) = false
  jitter_ok : (!jitterFactor.inUnit || !jitterFactor.isFinite) = false
  backoff_le : ¬ maxBackoffMs < initialBackoffMs
  rateLimitBackoff_le : ¬ rateLimitMaxBackoffMs < rateLimitInitialBackoffMs

/-- `GrpcRetryConfig::try_new`: the checks in the source's order, the first one
that fails names its field. -/
def GrpcRetryConfig.tryNew (input : BuildGrpcRetryConfigRequest) :
    Except PolicyError GrpcRetryConfig :=
  if h1 : input.maxAttempts = 0 then
    .error (.invalidConfig "max_attempts must be >= 1")
  else if h2 : input.rateLimitMaxAttempts = 0 then
    .error (.invalidConfig "rate_limit_max_attempts must be >= 1")
  else if h3 : (input.backoffMultiplier.leZero || !input.backoffMultiplier.isFinite) = true then
    .error (.invalidConfig "backoff_multiplier must be a positive finite number")
  else if h4 : (!input.jitterFactor.inUnit || !input.jitterFactor.isFinite) = true then
    .error (.invalidConfig "jitter_factor must be in [0.0, 1.0]")
  else if h5 : input.maxBackoffMs < input.initialBackoffMs then
    .error (.invalidConfig "max_backoff_ms must be >= initial_backoff_ms")
  else if h6 : input.rateLimitMaxBackoffMs < input.rateLimitInitialBackoffMs then
    .error (.invalidConfig "rate_limit_max_backoff_ms must be >= rate_limit_initial_backoff_ms")
  else
    .ok ⟨input, h1, h2, eq_false_of_ne_true h3, eq_false_of_ne_true h4, h5, h6⟩

/-- `GrpcRetryConfig::default`: 2.0 is the multiplier and the double nearest to
0.1 the jitter. -/
def GrpcRetryConfig.default : GrpcRetryConfig where
  maxAttempts := 5
  initialBackoffMs := 100
  backoffMultiplier := .finite 2 0
  jitterFactor := .finite 3602879701896397 (-55)
  maxBackoffMs := 5000
  rateLimitMaxAttempts := 2
  rateLimitInitialBackoffMs := 1000
  rateLimitMaxBackoffMs := 10000
  maxAttempts_pos := u32_five_ne_zero
  rateLimitMaxAttempts_pos := by decide
  multiplier_ok := by decide
  jitter_ok := by decide
  backoff_le := by decide
  rateLimitBackoff_le := by decide

namespace GrpcRetryConfig

/-- Every policy is one that `try_new` accepts, from the policy's own values. -/
theorem tryNew_toRequest (cfg : GrpcRetryConfig) :
    tryNew cfg.toBuildGrpcRetryConfigRequest = .ok cfg := by
  obtain ⟨input, h1, h2, h3, h4, h5, h6⟩ := cfg
  simp only [tryNew, h1, h2, h3, h4, h5, h6, dite_false, Bool.false_eq_true]

/-- An accepted policy holds the values of its request. -/
theorem tryNew_request {input : BuildGrpcRetryConfigRequest} {cfg : GrpcRetryConfig}
    (h : tryNew input = .ok cfg) : cfg.toBuildGrpcRetryConfigRequest = input := by
  unfold tryNew at h
  -- Six checks, each an `if` with an error in its first branch.
  iterate 6
    split at h
    · cases h
  cases h
  rfl

/-- A request is accepted iff it passes every check. -/
theorem tryNew_ok_iff (input : BuildGrpcRetryConfigRequest) :
    (∃ cfg, tryNew input = .ok cfg) ↔
      input.maxAttempts ≠ 0 ∧ input.rateLimitMaxAttempts ≠ 0 ∧
      (input.backoffMultiplier.leZero || !input.backoffMultiplier.isFinite) = false ∧
      (!input.jitterFactor.inUnit || !input.jitterFactor.isFinite) = false ∧
      ¬ input.maxBackoffMs < input.initialBackoffMs ∧
      ¬ input.rateLimitMaxBackoffMs < input.rateLimitInitialBackoffMs := by
  constructor
  · rintro ⟨cfg, h⟩
    rw [← tryNew_request h]
    exact ⟨cfg.maxAttempts_pos, cfg.rateLimitMaxAttempts_pos, cfg.multiplier_ok, cfg.jitter_ok,
      cfg.backoff_le, cfg.rateLimitBackoff_le⟩
  · rintro ⟨h1, h2, h3, h4, h5, h6⟩
    exact ⟨⟨input, h1, h2, h3, h4, h5, h6⟩, tryNew_toRequest ⟨input, h1, h2, h3, h4, h5, h6⟩⟩

/-- A policy allows at least one attempt. -/
theorem one_le_maxAttempts (cfg : GrpcRetryConfig) : 1 ≤ cfg.maxAttempts.toNat := by
  have h := cfg.maxAttempts_pos
  rcases Nat.eq_zero_or_pos cfg.maxAttempts.toNat with h0 | h0
  · exact absurd (UInt32.toNat_inj.mp (by simpa using h0)) h
  · exact h0

end GrpcRetryConfig

end GrpcEgress
