import GrpcEgress.Lib.Checked
import GrpcEgress.Lib.Setters
import GrpcEgress.Resilient.Stack

/-!
# Policies and where they come from

A policy is made by its own constructor, by a builder, from a section of a configuration
file, or out of two other policies. A section is parsed by a crate; that crate is a
parameter, a function from texts to the values of a section.

Each way makes a policy of values that its checks let through and of no others, and a
policy is read back from the values that it holds. Providers and builders check a policy
once more, in an order of their own; that check never refuses one.

1. `retry_policies`: the calls of a `StdGrpcRetryConfigBuilder`, and texts;
2. `StdGrpcBreakerConfigProvider.parseConfig_eq_ok_iff`: the texts of breaker policies;
3. `resilience_configs`: which configurations there are, and that those are the ones that
   the factory takes.
-/

namespace GrpcEgress

/-- `RetryError` and `BreakerError`, where a text is read. -/
inductive PolicyReadError where
  | parseFailed (reason : String)
  | policy (error : PolicyError)
deriving DecidableEq

/-! ## Retry policies -/

/-- `try_new`, and the values of a policy. -/
def GrpcRetryConfig.checked : Checked BuildGrpcRetryConfigRequest GrpcRetryConfig PolicyError where
  read := GrpcRetryConfig.tryNew
  write := GrpcRetryConfig.toBuildGrpcRetryConfigRequest
  Made _ := True
  write_read made := ⟨trivial, GrpcRetryConfig.tryNew_request made⟩
  read_write _ := GrpcRetryConfig.tryNew_toRequest _

namespace StdGrpcRetryConfigProvider

/-- `validate`. -/
def validate (config : GrpcRetryConfig) : Except PolicyError Unit :=
  if config.maxAttempts = 0 then .error (.invalidConfig "max_attempts must be >= 1")
  else if (config.backoffMultiplier.leZero || !config.backoffMultiplier.isFinite) = true then
    .error (.invalidConfig "backoff_multiplier must be a positive finite number")
  else if (!config.jitterFactor.inUnit || !config.jitterFactor.isFinite) = true then
    .error (.invalidConfig "jitter_factor must be in [0.0, 1.0]")
  else if config.maxBackoffMs < config.initialBackoffMs then
    .error (.invalidConfig "max_backoff_ms must be >= initial_backoff_ms")
  else if config.rateLimitMaxAttempts = 0 then
    .error (.invalidConfig "rate_limit_max_attempts must be >= 1")
  else if config.rateLimitMaxBackoffMs < config.rateLimitInitialBackoffMs then
    .error (.invalidConfig "rate_limit_max_backoff_ms must be >= rate_limit_initial_backoff_ms")
  else .ok ()

/-- `parse_config`. -/
def parseConfig (fromStr : String → Except String BuildGrpcRetryConfigRequest)
    (tell : PolicyError → String) (text : String) : Except PolicyReadError GrpcRetryConfig :=
  Checked.again ((GrpcRetryConfig.checked.readText fromStr tell text).mapError .parseFailed)
    fun config => (validate config).mapError .policy

/-- It makes the checks of `try_new` in another order, so it refuses no policy. -/
theorem validate_made (config : GrpcRetryConfig) : validate config = .ok () := by
  unfold validate
  rw [if_neg config.maxAttempts_pos, if_neg (Bool.eq_false_iff.mp config.multiplier_ok),
    if_neg (Bool.eq_false_iff.mp config.jitter_ok), if_neg config.backoff_le,
    if_neg config.rateLimitMaxAttempts_pos, if_neg config.rateLimitBackoff_le]

theorem parseConfig_eq_ok_iff {fromStr : String → Except String BuildGrpcRetryConfigRequest}
    {tell : PolicyError → String} {text : String} {config : GrpcRetryConfig} :
    parseConfig fromStr tell text = .ok config ↔
      fromStr text = .ok config.toBuildGrpcRetryConfigRequest := by
  unfold parseConfig
  rw [Checked.again_eq fun config _ => by rw [validate_made]; rfl, Checked.mapError_eq_ok_iff,
    Checked.readText_eq_ok_iff]
  exact and_iff_left trivial

end StdGrpcRetryConfigProvider

/-- A call of a method of a `GrpcRetryConfigBuilder`. -/
inductive RetryConfigCall where
  | maxAttempts (v : UInt32)
  | initialBackoffMs (v : UInt64)
  | backoffMultiplier (v : F64)
  | jitterFactor (v : F64)
  | maxBackoffMs (v : UInt64)
  | rateLimitMaxAttempts (v : UInt32)
  | rateLimitInitialBackoffMs (v : UInt64)
  | rateLimitMaxBackoffMs (v : UInt64)

/-- The values that a retry policy has. -/
inductive RetryConfigField where
  | maxAttempts | initialBackoffMs | backoffMultiplier | jitterFactor | maxBackoffMs
  | rateLimitMaxAttempts | rateLimitInitialBackoffMs | rateLimitMaxBackoffMs
deriving DecidableEq

/-- All of them. -/
def RetryConfigField.all : List RetryConfigField :=
  [.maxAttempts, .initialBackoffMs, .backoffMultiplier, .jitterFactor, .maxBackoffMs,
    .rateLimitMaxAttempts, .rateLimitInitialBackoffMs, .rateLimitMaxBackoffMs]

theorem RetryConfigField.all_nodup : RetryConfigField.all.Nodup := by decide

/-- The value that a call sets. -/
def RetryConfigCall.field : RetryConfigCall → RetryConfigField
  | .maxAttempts _ => .maxAttempts
  | .initialBackoffMs _ => .initialBackoffMs
  | .backoffMultiplier _ => .backoffMultiplier
  | .jitterFactor _ => .jitterFactor
  | .maxBackoffMs _ => .maxBackoffMs
  | .rateLimitMaxAttempts _ => .rateLimitMaxAttempts
  | .rateLimitInitialBackoffMs _ => .rateLimitInitialBackoffMs
  | .rateLimitMaxBackoffMs _ => .rateLimitMaxBackoffMs

/-- `StdGrpcRetryConfigBuilder`. -/
structure StdGrpcRetryConfigBuilder extends BuildGrpcRetryConfigRequest

namespace StdGrpcRetryConfigBuilder

/-- `default`. -/
def default : StdGrpcRetryConfigBuilder := ⟨GrpcRetryConfig.default.toBuildGrpcRetryConfigRequest⟩

/-- The eight methods. -/
def set (b : StdGrpcRetryConfigBuilder) : RetryConfigCall → StdGrpcRetryConfigBuilder
  | .maxAttempts v => { b with maxAttempts := v }
  | .initialBackoffMs v => { b with initialBackoffMs := v }
  | .backoffMultiplier v => { b with backoffMultiplier := v }
  | .jitterFactor v => { b with jitterFactor := v }
  | .maxBackoffMs v => { b with maxBackoffMs := v }
  | .rateLimitMaxAttempts v => { b with rateLimitMaxAttempts := v }
  | .rateLimitInitialBackoffMs v => { b with rateLimitInitialBackoffMs := v }
  | .rateLimitMaxBackoffMs v => { b with rateLimitMaxBackoffMs := v }

/-- `build`. -/
def build (b : StdGrpcRetryConfigBuilder) : Except PolicyError GrpcRetryConfig :=
  Checked.again (GrpcRetryConfig.tryNew b.toBuildGrpcRetryConfigRequest)
    StdGrpcRetryConfigProvider.validate

/-- The methods set one value each. -/
def setters : Setters StdGrpcRetryConfigBuilder RetryConfigCall RetryConfigField where
  apply := set
  field := RetryConfigCall.field
  overwrites b c c' same := by
    cases c <;> cases c' <;> first | rfl | cases same
  commutes b c c' other := by
    cases c <;> cases c' <;> first | rfl | exact absurd rfl other

/-- What is built after the calls. -/
def built (calls : List RetryConfigCall) : Except PolicyError GrpcRetryConfig :=
  (calls.foldl set default).build

/-- The calls that set every value of a policy. -/
def callsOf (config : GrpcRetryConfig) : List RetryConfigCall :=
  [.maxAttempts config.maxAttempts, .initialBackoffMs config.initialBackoffMs,
    .backoffMultiplier config.backoffMultiplier, .jitterFactor config.jitterFactor,
    .maxBackoffMs config.maxBackoffMs, .rateLimitMaxAttempts config.rateLimitMaxAttempts,
    .rateLimitInitialBackoffMs config.rateLimitInitialBackoffMs,
    .rateLimitMaxBackoffMs config.rateLimitMaxBackoffMs]

theorem build_eq (b : StdGrpcRetryConfigBuilder) :
    b.build = GrpcRetryConfig.tryNew b.toBuildGrpcRetryConfigRequest :=
  Checked.again_eq fun config _ => StdGrpcRetryConfigProvider.validate_made config

theorem built_of_last {calls calls' : List RetryConfigCall}
    (same : setters.last calls = setters.last calls') : built calls = built calls' :=
  congrArg build (Setters.foldl_eq_of_last same default)

/-- They leave nothing of what the builder starts with. -/
theorem foldl_callsOf (config : GrpcRetryConfig) :
    (callsOf config).foldl set default = ⟨config.toBuildGrpcRetryConfigRequest⟩ := by
  simp only [callsOf, List.foldl_cons, List.foldl_nil, set]

theorem map_field_callsOf (config : GrpcRetryConfig) :
    (callsOf config).map setters.field = RetryConfigField.all := rfl

/-- Every policy is built by calls that set all of its values, in any order. -/
theorem built_callsOf {config : GrpcRetryConfig} {calls : List RetryConfigCall}
    (perm : (callsOf config).Perm calls) : built calls = .ok config := by
  have once : ((callsOf config).map setters.field).Nodup := by
    rw [map_field_callsOf]
    exact RetryConfigField.all_nodup
  have same : built (callsOf config) = built calls :=
    built_of_last (Setters.last_of_perm perm once)
  rw [← same, built, foldl_callsOf, build_eq]
  exact config.tryNew_toRequest

end StdGrpcRetryConfigBuilder

open StdGrpcRetryConfigBuilder in
/-- However often and in whatever order the methods of a builder are called: what it builds
is decided by the last call of each, and it is what `try_new` makes of the values that are
set. Each policy is built by the calls that set its values, in every order, and a text is
read as a policy iff its section holds the values of that policy. -/
theorem retry_policies (fromStr : String → Except String BuildGrpcRetryConfigRequest)
    (tell : PolicyError → String) :
    (∀ calls, built calls =
      GrpcRetryConfig.tryNew (calls.foldl set default).toBuildGrpcRetryConfigRequest) ∧
    (∀ calls calls', setters.last calls = setters.last calls' → built calls = built calls') ∧
    (∀ config calls, (callsOf config).Perm calls → built calls = .ok config) ∧
    ∀ text config, StdGrpcRetryConfigProvider.parseConfig fromStr tell text = .ok config ↔
      fromStr text = .ok config.toBuildGrpcRetryConfigRequest :=
  ⟨fun _ => build_eq _, fun _ _ => built_of_last, fun _ _ => built_callsOf,
    fun _ _ => StdGrpcRetryConfigProvider.parseConfig_eq_ok_iff⟩

/-! ## Breaker policies -/

/-- `GrpcBreakerConfigData`. -/
structure GrpcBreakerConfigData where
  enabled : Bool
  failureThreshold : UInt32
  coolDownSeconds : UInt64
  halfOpenProbeCount : UInt32
deriving DecidableEq

/-- `try_from`, and the values of a policy. -/
def GrpcBreakerConfig.checked : Checked GrpcBreakerConfigData GrpcBreakerConfig PolicyError where
  read data := GrpcBreakerConfig.tryNew data.enabled data.failureThreshold data.coolDownSeconds
    data.halfOpenProbeCount
  write config := ⟨config.enabled, config.failureThreshold, config.coolDownSeconds,
    config.halfOpenProbeCount⟩
  Made _ := True
  write_read made := by
    obtain ⟨enabled, threshold, coolDown, probes⟩ :=
      StdGrpcResilientFactory.tryNew_breaker_fields made
    simp only [enabled, threshold, coolDown, probes, and_self]
  read_write _ := GrpcBreakerConfig.tryNew_toFields _

namespace StdGrpcBreakerConfigProvider

/-- `parse_config`. -/
def parseConfig (fromStr : String → Except String GrpcBreakerConfigData)
    (tell : PolicyError → String) (text : String) : Except PolicyReadError GrpcBreakerConfig :=
  Checked.again ((GrpcBreakerConfig.checked.readText fromStr tell text).mapError .parseFailed)
    fun config => (validate config).mapError .policy

/-- It makes the checks of `try_new` again. -/
theorem validate_made (config : GrpcBreakerConfig) : validate config = .ok () := by
  unfold validate
  rw [if_neg config.failureThreshold_pos, if_neg config.halfOpenProbeCount_pos]

theorem parseConfig_eq_ok_iff {fromStr : String → Except String GrpcBreakerConfigData}
    {tell : PolicyError → String} {text : String} {config : GrpcBreakerConfig} :
    parseConfig fromStr tell text = .ok config ↔
      fromStr text = .ok (GrpcBreakerConfig.checked.write config) := by
  unfold parseConfig
  rw [Checked.again_eq fun config _ => by rw [validate_made]; rfl, Checked.mapError_eq_ok_iff,
    Checked.readText_eq_ok_iff]
  exact and_iff_left trivial

end StdGrpcBreakerConfigProvider

/-! ## Resilience configurations -/

/-- `ResilienceConfigData`. -/
structure ResilienceConfigData extends BuildGrpcRetryConfigRequest where
  breakerEnabled : Bool
  failureThreshold : UInt32
  coolDownSeconds : UInt64
  halfOpenProbeCount : UInt32
deriving DecidableEq

namespace ResilienceConfig

/-- How a configuration is written, which is value by value. -/
def toData (config : ResilienceConfig) : ResilienceConfigData where
  toBuildGrpcRetryConfigRequest := config.toBuildGrpcRetryConfigRequest
  breakerEnabled := config.breakerEnabled
  failureThreshold := config.failureThreshold
  coolDownSeconds := config.coolDownSeconds
  halfOpenProbeCount := config.halfOpenProbeCount

variable (texts : PolicyTexts)

/-- `try_from`. -/
def tryFrom (data : ResilienceConfigData) : Except ResilientTransportError ResilienceConfig := do
  let retry ← (GrpcRetryConfig.tryNew data.toBuildGrpcRetryConfigRequest).mapError fun error =>
    .invalidResilience (texts.showError error)
  let breaker ← (GrpcBreakerConfig.tryNew data.breakerEnabled data.failureThreshold
    data.coolDownSeconds data.halfOpenProbeCount).mapError fun error =>
      .invalidResilience (texts.showError error)
  pure (fromPolicies retry breaker)

/-- The configurations that there are: the fields are private, so each one was made so. -/
inductive Constructed : ResilienceConfig → Prop
  | default : Constructed .default
  | fromPolicies (retry : GrpcRetryConfig) (breaker : GrpcBreakerConfig) :
    Constructed (.fromPolicies retry breaker)
  | tryFrom {data : ResilienceConfigData} {config : ResilienceConfig} :
    ResilienceConfig.tryFrom texts data = .ok config → Constructed config

variable {texts}

theorem tryFrom_eq (data : ResilienceConfigData) {retry : GrpcRetryConfig}
    (retried : GrpcRetryConfig.tryNew data.toBuildGrpcRetryConfigRequest = .ok retry) :
    tryFrom texts data = ((GrpcBreakerConfig.tryNew data.breakerEnabled data.failureThreshold
      data.coolDownSeconds data.halfOpenProbeCount).map (fromPolicies retry)).mapError
        fun error => .invalidResilience (texts.showError error) := by
  unfold tryFrom
  rw [retried]
  cases GrpcBreakerConfig.tryNew data.breakerEnabled data.failureThreshold data.coolDownSeconds
      data.halfOpenProbeCount with
  | error e => rfl
  | ok breaker => rfl

/-- A configuration holds the values of the section it was made of. -/
theorem tryFrom_ok {data : ResilienceConfigData} {config : ResilienceConfig}
    (made : tryFrom texts data = .ok config) :
    (∃ retry breaker, config = fromPolicies retry breaker) ∧ config.toData = data := by
  cases retried : GrpcRetryConfig.tryNew data.toBuildGrpcRetryConfigRequest with
  | error e =>
    unfold tryFrom at made
    rw [retried] at made
    cases made
  | ok retry =>
    rw [tryFrom_eq data retried] at made
    cases broken : GrpcBreakerConfig.tryNew data.breakerEnabled data.failureThreshold
        data.coolDownSeconds data.halfOpenProbeCount with
    | error e =>
      rw [broken] at made
      cases made
    | ok breaker =>
      rw [broken] at made
      obtain ⟨enabled, threshold, coolDown, probes⟩ :=
        StdGrpcResilientFactory.tryNew_breaker_fields broken
      cases made
      refine ⟨⟨retry, breaker, rfl⟩, ?_⟩
      simp only [toData, fromPolicies, GrpcRetryConfig.tryNew_request retried, enabled, threshold,
        coolDown, probes]

theorem tryFrom_toData (retry : GrpcRetryConfig) (breaker : GrpcBreakerConfig) :
    tryFrom texts (fromPolicies retry breaker).toData = .ok (fromPolicies retry breaker) := by
  have broken : GrpcBreakerConfig.tryNew (fromPolicies retry breaker).toData.breakerEnabled
      (fromPolicies retry breaker).toData.failureThreshold
      (fromPolicies retry breaker).toData.coolDownSeconds
      (fromPolicies retry breaker).toData.halfOpenProbeCount = .ok breaker :=
    breaker.tryNew_toFields
  rw [tryFrom_eq _ retry.tryNew_toRequest, broken]
  rfl

theorem constructed_iff {config : ResilienceConfig} :
    config.Constructed texts ↔ ∃ retry breaker, config = fromPolicies retry breaker := by
  constructor
  · intro constructed
    cases constructed with
    | default => exact ⟨.default, .default, default_eq_fromPolicies⟩
    | fromPolicies retry breaker => exact ⟨retry, breaker, rfl⟩
    | tryFrom made => exact (tryFrom_ok made).1
  · rintro ⟨retry, breaker, rfl⟩
    exact .fromPolicies retry breaker

variable (texts) in
/-- `try_from`, and the section of a configuration. -/
def checked : Checked ResilienceConfigData ResilienceConfig ResilientTransportError where
  read := tryFrom texts
  write := toData
  Made := Constructed texts
  write_read made := ⟨.tryFrom made, (tryFrom_ok made).2⟩
  read_write constructed := by
    obtain ⟨retry, breaker, rfl⟩ := constructed_iff.mp constructed
    exact tryFrom_toData retry breaker

/-- The first check that fails is told, those of the retry policy first. -/
theorem tryFrom_refused_iff {data : ResilienceConfigData} {error : ResilientTransportError} :
    tryFrom texts data = .error error ↔ ∃ e, error = .invalidResilience (texts.showError e) ∧
      (GrpcRetryConfig.tryNew data.toBuildGrpcRetryConfigRequest = .error e ∨
        (∃ retry, GrpcRetryConfig.tryNew data.toBuildGrpcRetryConfigRequest = .ok retry) ∧
        GrpcBreakerConfig.tryNew data.breakerEnabled data.failureThreshold data.coolDownSeconds
          data.halfOpenProbeCount = .error e) := by
  cases retried : GrpcRetryConfig.tryNew data.toBuildGrpcRetryConfigRequest with
  | error e =>
    unfold tryFrom
    rw [retried]
    constructor
    · intro refused
      exact ⟨e, (Except.error.inj refused).symm, .inl rfl⟩
    · rintro ⟨e', rfl, same | ⟨⟨retry, made⟩, -⟩⟩
      · cases same
        rfl
      · cases made
  | ok retry =>
    rw [tryFrom_eq data retried]
    cases broken : GrpcBreakerConfig.tryNew data.breakerEnabled data.failureThreshold
        data.coolDownSeconds data.halfOpenProbeCount with
    | error e =>
      constructor
      · intro refused
        exact ⟨e, (Except.error.inj refused).symm, .inr ⟨⟨retry, rfl⟩, rfl⟩⟩
      · rintro ⟨e', rfl, same | ⟨-, same⟩⟩
        · cases same
        · cases same
          rfl
    | ok breaker =>
      constructor
      · intro refused
        cases refused
      · rintro ⟨e', rfl, same | ⟨-, same⟩⟩
        · cases same
        · cases same

end ResilienceConfig

namespace StdResilienceConfigProvider

variable (texts : PolicyTexts) (fromStr : String → Except String ResilienceConfigData)
  (tell : ResilientTransportError → String)

/-- `parse_config`. -/
def parseConfig (text : String) : Except ResilientTransportError ResilienceConfig :=
  Checked.again
    (((ResilienceConfig.checked texts).readText fromStr tell text).mapError fun reason =>
      .invalidResilience ("parse failed: " ++ reason))
    (validate texts)

variable {texts fromStr tell} {config : ResilienceConfig}

theorem validate_constructed (constructed : config.Constructed texts) :
    validate texts config = .ok () := by
  obtain ⟨retry, breaker, rfl⟩ := ResilienceConfig.constructed_iff.mp constructed
  exact StdGrpcResilientFactory.validate_ok retry.maxAttempts_pos retry.rateLimitMaxAttempts_pos
    (StdGrpcResilientFactory.jitter_in_range retry) breaker.halfOpenProbeCount_pos
    retry.rateLimitBackoff_le

theorem parseConfig_eq_ok_iff {text : String} :
    parseConfig texts fromStr tell text = .ok config ↔
      fromStr text = .ok config.toData ∧ config.Constructed texts := by
  unfold parseConfig
  rw [Checked.again_eq, Checked.mapError_eq_ok_iff]
  · exact Checked.readText_eq_ok_iff _
  · intro config made
    refine validate_constructed ?_
    exact ((Checked.readText_eq_ok_iff _).mp (Checked.mapError_eq_ok_iff.mp made)).2

theorem validate_ok_iff : validate texts config = .ok () ↔
    config.maxAttempts ≠ 0 ∧ config.rateLimitMaxAttempts ≠ 0 ∧
    (config.jitterFactor.ltZero || config.jitterFactor.gtOne) = false ∧
    config.halfOpenProbeCount ≠ 0 ∧
    ¬ config.rateLimitMaxBackoffMs < config.rateLimitInitialBackoffMs := by
  constructor
  · intro passed
    unfold validate at passed
    -- Five checks, each an `if` with an error in its first branch.
    split at passed
    · cases passed
    next attempts =>
    split at passed
    · cases passed
    next rateLimit =>
    split at passed
    · cases passed
    next jitter =>
    split at passed
    · cases passed
    next probes =>
    split at passed
    · cases passed
    next backoff => exact ⟨attempts, rateLimit, eq_false_of_ne_true jitter, probes, backoff⟩
  · rintro ⟨attempts, rateLimit, jitter, probes, backoff⟩
    exact StdGrpcResilientFactory.validate_ok attempts rateLimit jitter probes backoff

/-- The two checks of a jitter differ on a NaN. -/
theorem jitter_ok_iff {x : F64} : (!x.inUnit || !x.isFinite) = false ↔
    (x.ltZero || x.gtOne) = false ∧ x ≠ .nan := by
  cases x with
  | nan => simp [F64.isFinite]
  | infinite negative => cases negative <;> simp [F64.isFinite, F64.ltZero, F64.gtOne, F64.geZero,
      F64.leOne]
  | finite mantissa exponent =>
    simp [F64.isFinite, F64.ltZero, F64.gtOne, F64.inUnit]

/-- What `validate` does not look at. -/
structure Unvalidated (config : ResilienceConfig) : Prop where
  multiplier_ok : (config.backoffMultiplier.leZero || !config.backoffMultiplier.isFinite) = false
  jitter_ne_nan : config.jitterFactor ≠ .nan
  backoff_le : ¬ config.maxBackoffMs < config.initialBackoffMs
  failureThreshold_pos : config.failureThreshold ≠ 0

/-- Of the values that pass, those that make a configuration. -/
theorem constructed_iff_unvalidated (passed : validate texts config = .ok ()) :
    config.Constructed texts ↔ Unvalidated config := by
  obtain ⟨attempts, rateLimit, jitter, probes, rateLimitBackoff⟩ := validate_ok_iff.mp passed
  constructor
  · intro constructed
    obtain ⟨retry, breaker, rfl⟩ := ResilienceConfig.constructed_iff.mp constructed
    exact ⟨retry.multiplier_ok, (jitter_ok_iff.mp retry.jitter_ok).2, retry.backoff_le,
      breaker.failureThreshold_pos⟩
  · rintro ⟨multiplier, number, backoff, threshold⟩
    let retry : GrpcRetryConfig := ⟨config.toBuildGrpcRetryConfigRequest, attempts, rateLimit,
      multiplier, jitter_ok_iff.mpr ⟨jitter, number⟩, backoff, rateLimitBackoff⟩
    let breaker : GrpcBreakerConfig := ⟨config.breakerEnabled, config.failureThreshold,
      config.coolDownSeconds, config.halfOpenProbeCount, threshold, probes⟩
    exact .fromPolicies retry breaker

end StdResilienceConfigProvider

open StdResilienceConfigProvider StdGrpcResilientFactory in
/-- The factory takes the configurations that there are, and no other values: the client
holds the two policies of its configuration. Written out as a section and parsed, each is
read back, and a text is read as one iff its section holds the values of one. What is
refused is told by the first check that fails, of the retry policy and then of the breaker.
`validate` by itself lets more through: it makes sure of neither the multiplier, nor the
backoff, nor the threshold, nor that the jitter is a number. -/
theorem resilience_configs {υ : Type} (texts : PolicyTexts) (transition : BreakerTransition)
    (scheduler : BackoffScheduler υ) (fromStr : String → Except String ResilienceConfigData)
    (tell : ResilientTransportError → String) :
    (∀ config, config.Constructed texts ↔ ∃ client,
      build texts transition scheduler config = .ok client) ∧
    (∀ config client, build texts transition scheduler config = .ok client →
      config = .fromPolicies client.retry.config client.breaker.config) ∧
    (∀ config, config.Constructed texts ↔
      ResilienceConfig.tryFrom texts config.toData = .ok config) ∧
    (∀ text config, parseConfig texts fromStr tell text = .ok config ↔
      fromStr text = .ok config.toData ∧ config.Constructed texts) ∧
    (∀ data error, ResilienceConfig.tryFrom texts data = .error error ↔
      ∃ e, error = .invalidResilience (texts.showError e) ∧
        (GrpcRetryConfig.tryNew data.toBuildGrpcRetryConfigRequest = .error e ∨
          (∃ retry, GrpcRetryConfig.tryNew data.toBuildGrpcRetryConfigRequest = .ok retry) ∧
          GrpcBreakerConfig.tryNew data.breakerEnabled data.failureThreshold data.coolDownSeconds
            data.halfOpenProbeCount = .error e)) ∧
    ∀ config, validate texts config = .ok () →
      (config.Constructed texts ↔ Unvalidated config) := by
  refine ⟨fun config => ?_, fun config client built => (build_ok built).1, fun config => ?_,
    fun text config => parseConfig_eq_ok_iff,
    fun data error => ResilienceConfig.tryFrom_refused_iff,
    fun config => constructed_iff_unvalidated⟩
  · rw [ResilienceConfig.constructed_iff]
    constructor
    · rintro ⟨retry, breaker, rfl⟩
      exact ⟨_, build_fromPolicies retry breaker⟩
    · rintro ⟨client, built⟩
      exact ⟨client.retry.config, client.breaker.config, (build_ok built).1⟩
  · exact (ResilienceConfig.checked texts).made_iff

end GrpcEgress
