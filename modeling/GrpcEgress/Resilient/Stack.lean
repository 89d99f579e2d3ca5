import GrpcEgress.Breaker.Refinement
import GrpcEgress.Retry.Requests

/-!
# The resilient stack

`StdGrpcResilientFactory`: one policy, checked and split in two, and a client that
retries inside a circuit breaker. A logical call is what the caller makes; the bare
client may see several attempts of it, or none.

The retry client is the wrapped client of `BreakerEgress`, so the state of the stack is
an `Around` whose lower part is the calls that the bare client was given.

1. `build_ok`: the two policies of a built client are those of its configuration;
2. `logical_cases`: what one logical call does to the stack;
3. `breaker_sees_logical_calls`: whole runs.
-/

namespace GrpcEgress

open StdFailureClassifier

/-! ## The policy -/

namespace F64

/-- `x < 0.0`; false on a NaN. -/
def ltZero : F64 → Bool
  | .nan => false
  | x => !x.geZero

/-- `x > 1.0`; false on a NaN. -/
def gtOne : F64 → Bool
  | .nan => false
  | x => !x.leOne

end F64

/-- `ResilienceConfig`: the values of both policies. -/
structure ResilienceConfig extends BuildGrpcRetryConfigRequest where
  breakerEnabled : Bool
  failureThreshold : UInt32
  coolDownSeconds : UInt64
  halfOpenProbeCount : UInt32
deriving DecidableEq

namespace ResilienceConfig

/-- `ResilienceConfig::from_policies`. -/
def fromPolicies (retry : GrpcRetryConfig) (breaker : GrpcBreakerConfig) : ResilienceConfig where
  toBuildGrpcRetryConfigRequest := retry.toBuildGrpcRetryConfigRequest
  breakerEnabled := breaker.enabled
  failureThreshold := breaker.failureThreshold
  coolDownSeconds := breaker.coolDownSeconds
  halfOpenProbeCount := breaker.halfOpenProbeCount

/-- `ResilienceConfig::default`. -/
def default : ResilienceConfig where
  maxAttempts := 5
  initialBackoffMs := 100
  backoffMultiplier := .finite 2 0
  jitterFactor := .finite 3602879701896397 (-55)
  maxBackoffMs := 5000
  rateLimitMaxAttempts := 2
  rateLimitInitialBackoffMs := 1000
  rateLimitMaxBackoffMs := 10000
  breakerEnabled := true
  failureThreshold := 5
  coolDownSeconds := 30
  halfOpenProbeCount := 1

theorem default_eq_fromPolicies : default = fromPolicies .default .default := rfl

end ResilienceConfig

/-- `ResilientTransportError`. -/
inductive ResilientTransportError where
  | invalidResilience (reason : String)
  | breaker (error : PolicyError)
deriving DecidableEq

/-- How an error of a policy reads, and a number with four decimals. -/
structure PolicyTexts where
  showError : PolicyError → String
  fixed4 : F64 → String

namespace StdResilienceConfigProvider

variable (texts : PolicyTexts) (config : ResilienceConfig)

/-- `validate`. -/
def validate : Except ResilientTransportError Unit :=
  if config.maxAttempts = 0 then .error (.invalidResilience "max_attempts must be >= 1")
  else if config.rateLimitMaxAttempts = 0 then
    .error (.invalidResilience "rate_limit_max_attempts must be >= 1")
  else if config.jitterFactor.ltZero || config.jitterFactor.gtOne then
    .error (.invalidResilience
      ("jitter_factor must be in [0.0, 1.0], got " ++ texts.fixed4 config.jitterFactor))
  else if config.halfOpenProbeCount = 0 then
    .error (.invalidResilience "half_open_probe_count must be >= 1")
  else if config.rateLimitMaxBackoffMs < config.rateLimitInitialBackoffMs then
    .error (.invalidResilience
      ("rate_limit_max_backoff_ms (" ++ toString config.rateLimitMaxBackoffMs ++
        ") must be >= rate_limit_initial_backoff_ms (" ++
        toString config.rateLimitInitialBackoffMs ++ ")"))
  else .ok ()

/-- `to_retry_config`. -/
def toRetryConfig : Except ResilientTransportError GrpcRetryConfig :=
  (GrpcRetryConfig.tryNew config.toBuildGrpcRetryConfigRequest).mapError fun error =>
    .invalidResilience (texts.showError error)

/-- `to_breaker_config`. -/
def toBreakerConfig : Except ResilientTransportError GrpcBreakerConfig :=
  (GrpcBreakerConfig.tryNew config.breakerEnabled config.failureThreshold config.coolDownSeconds
    config.halfOpenProbeCount).mapError fun error => .invalidResilience (texts.showError error)

end StdResilienceConfigProvider

/-- `StdGrpcBreakerConfigProvider::validate`. -/
def StdGrpcBreakerConfigProvider.validate (config : GrpcBreakerConfig) : Except PolicyError Unit :=
  if config.failureThreshold = 0 then .error (.invalidConfig "failure_threshold must be >= 1")
  else if config.halfOpenProbeCount = 0 then
    .error (.invalidConfig "half_open_probe_count must be >= 1")
  else .ok ()

/-! ## The client -/

/-- What the factory makes around a bare client: retry inside a breaker. -/
structure GrpcResilientClient (υ : Type) where
  breaker : GrpcBreakerClient
  retry : GrpcRetryClient υ

namespace StdGrpcResilientFactory

open StdResilienceConfigProvider

variable {υ : Type} (texts : PolicyTexts) (transition : BreakerTransition)
  (scheduler : BackoffScheduler υ) (config : ResilienceConfig)

/-- `StdGrpcResilientFactory::build`. -/
def build : Except ResilientTransportError (GrpcResilientClient υ) := do
  validate texts config
  let retry : GrpcRetryClient υ := ⟨← toRetryConfig texts config, stdRetryClassifier, scheduler⟩
  let breaker ← toBreakerConfig texts config
  (StdGrpcBreakerConfigProvider.validate breaker).mapError .breaker
  pure ⟨⟨breaker, transition⟩, retry⟩

variable {texts transition scheduler config}

theorem tryNew_breaker_fields {enabled : Bool} {threshold : UInt32} {coolDown : UInt64}
    {probes : UInt32} {cfg : GrpcBreakerConfig}
    (h : GrpcBreakerConfig.tryNew enabled threshold coolDown probes = .ok cfg) :
    cfg.enabled = enabled ∧ cfg.failureThreshold = threshold ∧ cfg.coolDownSeconds = coolDown ∧
      cfg.halfOpenProbeCount = probes := by
  unfold GrpcBreakerConfig.tryNew at h
  split at h
  · cases h
  · split at h
    · cases h
    · cases h
      exact ⟨rfl, rfl, rfl, rfl⟩

/-- A built client holds the policies of its configuration. -/
theorem build_ok {client : GrpcResilientClient υ}
    (built : build texts transition scheduler config = .ok client) :
    config = ResilienceConfig.fromPolicies client.retry.config client.breaker.config ∧
    client.retry.classifier = stdRetryClassifier ∧ client.retry.scheduler = scheduler ∧
    client.breaker.transition = transition := by
  simp only [build, bind, Except.bind] at built
  split at built
  · cases built
  · unfold toRetryConfig toBreakerConfig at built
    cases retried : GrpcRetryConfig.tryNew config.toBuildGrpcRetryConfigRequest with
    | error e => rw [retried] at built; cases built
    | ok retry =>
      rw [retried] at built
      cases broken : GrpcBreakerConfig.tryNew config.breakerEnabled config.failureThreshold
          config.coolDownSeconds config.halfOpenProbeCount with
      | error e => rw [broken] at built; cases built
      | ok breaker =>
        rw [broken] at built
        have request := GrpcRetryConfig.tryNew_request retried
        obtain ⟨enabled, threshold, coolDown, probes⟩ := tryNew_breaker_fields broken
        simp only [Except.mapError] at built
        split at built
        · cases built
        · cases built
          refine ⟨?_, rfl, rfl, rfl⟩
          unfold ResilienceConfig.fromPolicies
          rw [request, enabled, threshold, coolDown, probes]

/-- A jitter that a retry policy accepts is neither below zero nor above one. -/
theorem jitter_in_range (retry : GrpcRetryConfig) :
    (retry.jitterFactor.ltZero || retry.jitterFactor.gtOne) = false := by
  have inUnit := retry.jitter_ok
  cases jitter : retry.jitterFactor with
  | nan => rfl
  | infinite negative =>
    rw [jitter] at inUnit
    simp [F64.isFinite] at inUnit
  | finite mantissa exponent =>
    rw [jitter] at inUnit
    simp only [F64.inUnit, Bool.or_eq_false_iff, Bool.not_eq_false', Bool.and_eq_true] at inUnit
    obtain ⟨⟨low, high⟩, -⟩ := inUnit
    simp only [F64.ltZero, F64.gtOne, low, high, Bool.not_true, Bool.or_self]

theorem validate_ok (attempts : config.maxAttempts ≠ 0)
    (rateLimit : config.rateLimitMaxAttempts ≠ 0)
    (jitter : (config.jitterFactor.ltZero || config.jitterFactor.gtOne) = false)
    (probes : config.halfOpenProbeCount ≠ 0)
    (backoff : ¬ config.rateLimitMaxBackoffMs < config.rateLimitInitialBackoffMs) :
    validate texts config = .ok () := by
  unfold validate
  rw [if_neg attempts, if_neg rateLimit, if_neg (Bool.eq_false_iff.mp jitter), if_neg probes,
    if_neg backoff]

/-- Two policies make a configuration that is accepted, and give back those policies. -/
theorem build_fromPolicies (retry : GrpcRetryConfig) (breaker : GrpcBreakerConfig) :
    build texts transition scheduler (.fromPolicies retry breaker) =
      .ok ⟨⟨breaker, transition⟩, ⟨retry, stdRetryClassifier, scheduler⟩⟩ := by
  have checked : validate texts (.fromPolicies retry breaker) = .ok () :=
    validate_ok retry.maxAttempts_pos retry.rateLimitMaxAttempts_pos (jitter_in_range retry)
      breaker.halfOpenProbeCount_pos retry.rateLimitBackoff_le
  have retried : toRetryConfig texts (.fromPolicies retry breaker) = .ok retry := by
    unfold toRetryConfig
    exact congrArg _ retry.tryNew_toRequest
  have broken : toBreakerConfig texts (.fromPolicies retry breaker) = .ok breaker := by
    unfold toBreakerConfig
    exact congrArg _ breaker.tryNew_toFields
  have wrapped : StdGrpcBreakerConfigProvider.validate breaker = .ok () := by
    unfold StdGrpcBreakerConfigProvider.validate
    rw [if_neg breaker.failureThreshold_pos, if_neg breaker.halfOpenProbeCount_pos]
  have last : build texts transition scheduler (.fromPolicies retry breaker) =
      (StdGrpcBreakerConfigProvider.validate breaker).mapError .breaker >>= fun _ =>
        pure ⟨⟨breaker, transition⟩, ⟨retry, stdRetryClassifier, scheduler⟩⟩ := by
    unfold build
    rw [checked, retried, broken]
    rfl
  rw [last, wrapped]
  rfl

end StdGrpcResilientFactory

/-! ## Logical calls -/

/-- A call that the caller of the stack makes: what the two layers read from outside,
and the bare client's answer to its `i`-th invocation for this call. -/
structure LogicalCall (υ μ σ τ ρ : Type) where
  call : EgressCall μ σ τ
  clock : CallClock
  env : Surroundings υ
  payload : Payload μ
  bare : Nat → EgressCall μ σ τ → Except CallError ρ

namespace GrpcRetryClient

variable {υ μ σ τ ρ : Type}

/-- Every call comes to an answer: no counter of the loop overflows. -/
theorem make_answers (client : GrpcRetryClient υ) (env : Surroundings υ) (payload : Payload μ)
    (inner : Nat → EgressCall μ σ τ → Except CallError ρ) (call : EgressCall μ σ τ) :
    (client.make env payload inner call).result.isSome := by
  have looped : ∀ {ε : Type} (c : RetryInput υ ε ρ), c.runWithRetry.result.isSome := by
    intro ε c
    have ended := c.runWithRetry_ending
    generalize c.runWithRetry = r at ended
    cases ended with
    | exhausted | spent | stopped => rfl
  cases call with
  | call path request =>
    simp only [make, RetryOutcome.translate, Option.isSome_map, GrpcRetryClient.call]
    split
    · rfl
    · split
      · rfl
      · exact looped _
  | callRaw request =>
    simp only [make, RetryOutcome.translate, Option.isSome_map, callRaw]
    exact looped _
  | callServerStream | callClientStream | callBidiStream => rfl
  | callRawServerStream | callRawClientStream | callRawBidiStream => rfl

/-- The retry client as the client that the breaker wraps: the calls that it hands to
the bare client are added to those it handed over before. -/
def serve (client : GrpcRetryClient υ) (c : LogicalCall υ μ σ τ ρ) :
    Client (List (EgressCall μ σ τ)) μ σ τ ρ := fun call given =>
  let run := client.make c.env c.payload c.bare call
  (given ++ run.sent, run.result.get (client.make_answers c.env c.payload c.bare call))

end GrpcRetryClient

/-- A call through the stack: the stack before and after it, and its result. -/
structure LogicalStep (υ μ σ τ ρ : Type) where
  made : LogicalCall υ μ σ τ ρ
  before : Around (List (EgressCall μ σ τ))
  after : Around (List (EgressCall μ σ τ))
  result : Except CallError ρ

/-- The state machine is told of a failure. -/
def Consult.isFailure : Consult → Bool
  | .record .failure _ => true
  | _ => false

/-- The node after a call, from its times and its outcome should it be let through. -/
def GrpcBreakerClient.moved (b : GrpcBreakerClient) (node : BreakerNode)
    (moment : CallClock × Outcome) : BreakerNode :=
  match b.transition.admitCall node b.config.toBreakerConfig moment.1.admitted with
  | .error _ => node
  | .ok (node, .rejectOpen) => node
  | .ok (node, .proceed) =>
    match b.transition.record node b.config.toBreakerConfig moment.2 moment.1.recorded with
    | .ok recorded => recorded
    | .error _ => node

namespace GrpcResilientClient

variable {υ μ σ τ ρ : Type} (client : GrpcResilientClient υ)

/-- The calls that the bare client is given for a call that is let through, with the
index of the invocation. -/
def attempted (c : LogicalCall υ μ σ τ ρ) : List (Nat × EgressCall μ σ τ) :=
  (client.retry.make c.env c.payload c.bare c.call).handed

/-- The value that the retry loop returns for such a call. -/
def answer (c : LogicalCall υ μ σ τ ρ) : Except CallError ρ :=
  (client.retry.make c.env c.payload c.bare c.call).result.get
    (client.retry.make_answers c.env c.payload c.bare c.call)

/-- One logical call. -/
def logical (c : LogicalCall υ μ σ τ ρ) (s : Around (List (EgressCall μ σ τ))) :
    Around (List (EgressCall μ σ τ)) × Except CallError ρ :=
  BreakerEgress.make client.breaker c.clock (client.retry.serve c) c.call s

/-- Logical calls made one after another. -/
def run (s : Around (List (EgressCall μ σ τ))) :
    List (LogicalCall υ μ σ τ ρ) → List (LogicalStep υ μ σ τ ρ)
  | [] => []
  | c :: rest =>
    let made := client.logical c s
    ⟨c, s, made.1, made.2⟩ :: run made.1 rest

/-- The stack after a run. -/
def after (s : Around (List (EgressCall μ σ τ))) (calls : List (LogicalCall υ μ σ τ ρ)) :
    Around (List (EgressCall μ σ τ)) :=
  calls.foldl (fun s c => (client.logical c s).1) s

/-- The breaker's admission of the call. -/
def admission (step : LogicalStep υ μ σ τ ρ) : BreakerNode × Except CallError Unit :=
  client.breaker.admitCall step.made.call.path step.before.node step.made.clock.admitted

/-- The state machine lets the call proceed, and it comes to a failure that counts. -/
def countsFailure (step : LogicalStep υ μ σ τ ρ) : Bool :=
  match client.breaker.transition.admitCall step.before.node
    client.breaker.config.toBreakerConfig step.made.clock.admitted with
  | .ok (_, .proceed) => CountedFailure (client.answer step.made)
  | .ok (_, .rejectOpen) => false
  | .error _ => false

/-- What one logical call is to the breaker and to the bare client. -/
structure OneCall (step : LogicalStep υ μ σ τ ρ) : Prop where
  /-- A refused call: one question, no call of the bare client. -/
  refused : ∀ e, (client.admission step).2 = .error e →
    step.result = .error e ∧ step.after.below = step.before.below ∧
    step.after.asked = step.before.asked ++ [.admission step.made.clock.admitted]
  /-- An admitted call: one question, at most `max_attempts` calls of the bare client, and
  one record, of the value that the retry loop returned. -/
  admitted : (client.admission step).2 = .ok () →
    step.result = client.answer step.made ∧
    step.after.below = step.before.below ++ (client.attempted step.made).map Prod.snd ∧
    (client.attempted step.made).length ≤ client.retry.config.maxAttempts.toNat ∧
    step.after.asked = step.before.asked ++ [.admission step.made.clock.admitted,
      .record (outcomeOf (client.answer step.made)) step.made.clock.recorded]
  /-- An attempt that succeeds is the value of the call, and none before it counts. -/
  madeGood : ∀ i sent response, (i, sent) ∈ client.attempted step.made →
    step.made.bare i sent = .ok response →
    client.answer step.made = .ok response ∧
    outcomeOf (client.answer step.made) = .success

variable {client}

theorem serve_eq (c : LogicalCall υ μ σ τ ρ) (given : List (EgressCall μ σ τ)) :
    client.retry.serve c c.call given =
      (given ++ (client.attempted c).map Prod.snd, client.answer c) := by
  simp only [GrpcRetryClient.serve, attempted, answer, RetryOutcome.handed_sent]

theorem logical_of_refused (enabled : client.breaker.config.enabled = true)
    {c : LogicalCall υ μ σ τ ρ} {s : Around (List (EgressCall μ σ τ))} {node : BreakerNode}
    {e : CallError}
    (refused : client.breaker.admitCall c.call.path s.node c.clock.admitted = (node, .error e)) :
    client.logical c s =
      (⟨node, s.asked ++ [.admission c.clock.admitted], s.below⟩, .error e) := by
  rw [logical, BreakerEgress.make_eq_around,
    GrpcBreakerClient.around_of_refused enabled refused]

theorem logical_of_proceed (enabled : client.breaker.config.enabled = true)
    {c : LogicalCall υ μ σ τ ρ} {s : Around (List (EgressCall μ σ τ))} {node : BreakerNode}
    (lets : client.breaker.admitCall c.call.path s.node c.clock.admitted = (node, .ok ())) :
    client.logical c s =
      (⟨client.breaker.record (outcomeOf (client.answer c)) node c.clock.recorded,
        s.asked ++ [.admission c.clock.admitted,
          .record (outcomeOf (client.answer c)) c.clock.recorded],
        s.below ++ (client.attempted c).map Prod.snd⟩, client.answer c) := by
  rw [logical, BreakerEgress.make_eq_around, GrpcBreakerClient.around_of_proceed enabled lets,
    serve_eq, classifyResult_eq_outcomeOf]

theorem attempted_length_le (c : LogicalCall υ μ σ τ ρ) :
    (client.attempted c).length ≤ client.retry.config.maxAttempts.toNat := by
  have sent : (client.retry.make c.env c.payload c.bare c.call).sent.length ≤
      client.retry.config.maxAttempts.toNat := client.retry.make_sent_length_le c.bare c.call
  rw [← RetryOutcome.handed_sent, List.length_map] at sent
  exact sent

/-- The stack after one call, on either answer of the breaker. -/
theorem logical_cases (enabled : client.breaker.config.enabled = true)
    (c : LogicalCall υ μ σ τ ρ) (s : Around (List (EgressCall μ σ τ))) :
    (∃ node e, client.breaker.admitCall c.call.path s.node c.clock.admitted = (node, .error e) ∧
      client.logical c s =
        (⟨node, s.asked ++ [.admission c.clock.admitted], s.below⟩, .error e)) ∨
    (∃ node, client.breaker.admitCall c.call.path s.node c.clock.admitted = (node, .ok ()) ∧
      client.logical c s =
        (⟨client.breaker.record (outcomeOf (client.answer c)) node c.clock.recorded,
          s.asked ++ [.admission c.clock.admitted,
            .record (outcomeOf (client.answer c)) c.clock.recorded],
          s.below ++ (client.attempted c).map Prod.snd⟩, client.answer c)) := by
  rcases asked : client.breaker.admitCall c.call.path s.node c.clock.admitted with ⟨node, e | _⟩
  · exact .inl ⟨node, e, rfl, logical_of_refused enabled asked⟩
  · exact .inr ⟨node, rfl, logical_of_proceed enabled asked⟩

theorem answer_of_success (standard : client.retry.classifier = stdRetryClassifier)
    {c : LogicalCall υ μ σ τ ρ} {i : Nat} {sent : EgressCall μ σ τ} {response : ρ}
    (attempted : (i, sent) ∈ client.attempted c) (good : c.bare i sent = .ok response) :
    client.answer c = .ok response := by
  have onlyFailures : client.retry.classifier.RetriesOnlyFailures := standard ▸ stdClassify_ok
  have result := client.retry.make_result_of_success onlyFailures c.bare c.call attempted good
  simp only [answer, result, Option.get_some]

theorem run_oneCall (enabled : client.breaker.config.enabled = true)
    (standard : client.retry.classifier = stdRetryClassifier)
    (calls : List (LogicalCall υ μ σ τ ρ)) (s : Around (List (EgressCall μ σ τ))) :
    ∀ step ∈ client.run s calls, client.OneCall step := by
  induction calls generalizing s with
  | nil => exact fun step member => (nomatch member)
  | cons c rest ih =>
    refine List.forall_mem_cons.mpr ⟨?_, ih _⟩
    have madeGood : ∀ i sent response, (i, sent) ∈ client.attempted c →
        c.bare i sent = .ok response →
        client.answer c = .ok response ∧ outcomeOf (client.answer c) = .success := by
      intro i sent response attempted good
      have answered := answer_of_success standard attempted good
      rw [answered]
      exact ⟨rfl, rfl⟩
    rcases logical_cases enabled c s with ⟨node, e, asked, made⟩ | ⟨node, asked, made⟩
    · rw [made]
      refine ⟨fun e' refused => ?_, fun lets => ?_, madeGood⟩
      · rw [admission, asked] at refused
        cases refused
        exact ⟨rfl, rfl, rfl⟩
      · rw [admission, asked] at lets
        cases lets
    · rw [made]
      refine ⟨fun e' refused => ?_, fun _ => ?_, madeGood⟩
      · rw [admission, asked] at refused
        cases refused
      · exact ⟨rfl, rfl, attempted_length_le c, rfl⟩

/-- What the state machine answered when a call is let through or refused. -/
theorem countsFailure_of_asked {c : LogicalCall υ μ σ τ ρ}
    {s after : Around (List (EgressCall μ σ τ))} {result : Except CallError ρ}
    {node : BreakerNode} {verdict : Except CallError Unit}
    (asked : client.breaker.admitCall c.call.path s.node c.clock.admitted = (node, verdict)) :
    client.countsFailure ⟨c, s, after, result⟩ =
      (verdict.toBool && decide (CountedFailure (client.answer c))) := by
  unfold GrpcBreakerClient.admitCall at asked
  unfold countsFailure
  split at asked
  · next failed =>
    cases asked
    simp only [failed]
    rfl
  · next admitted admission answered =>
    cases asked
    cases admission with
    | proceed =>
      simp only [answered]
      exact (Bool.true_and _).symm
    | rejectOpen =>
      simp only [answered]
      rfl

/-- The failures that the state machine is told of in a run are the calls that came to
one, each counted once. -/
theorem run_failures (enabled : client.breaker.config.enabled = true)
    (calls : List (LogicalCall υ μ σ τ ρ)) (s : Around (List (EgressCall μ σ τ))) :
    (client.after s calls).asked.countP Consult.isFailure =
      s.asked.countP Consult.isFailure + (client.run s calls).countP client.countsFailure := by
  induction calls generalizing s with
  | nil => rfl
  | cons c rest ih =>
    show (client.after (client.logical c s).1 rest).asked.countP Consult.isFailure = _
    rw [ih, run, List.countP_cons, ← Nat.add_assoc, Nat.add_right_comm]
    congr 1
    rcases logical_cases enabled c s with ⟨node, e, asked, made⟩ | ⟨node, asked, made⟩
    · rw [countsFailure_of_asked asked, made, List.countP_append]
      rfl
    · rw [countsFailure_of_asked asked, made, List.countP_append]
      by_cases failed : CountedFailure (client.answer c)
      · simp only [outcomeOf, failed, if_true]
        rfl
      · simp only [outcomeOf, failed, if_false]
        rfl

/-- The nodes of a run depend on the times and on what the retry loop returned. -/
theorem after_node (enabled : client.breaker.config.enabled = true)
    (calls : List (LogicalCall υ μ σ τ ρ)) (s : Around (List (EgressCall μ σ τ))) :
    (client.after s calls).node =
      (calls.map fun c => (c.clock, outcomeOf (client.answer c))).foldl client.breaker.moved
        s.node := by
  induction calls generalizing s with
  | nil => rfl
  | cons c rest ih =>
    show (client.after (client.logical c s).1 rest).node = _
    rw [ih, List.map_cons, List.foldl_cons]
    congr 1
    unfold GrpcBreakerClient.moved
    rcases logical_cases enabled c s with ⟨node, e, asked, made⟩ | ⟨node, asked, made⟩
    · rw [made]
      unfold GrpcBreakerClient.admitCall at asked
      split at asked
      · next failed =>
        cases asked
        rw [failed]
      · next admitted admission answered =>
        cases admission with
        | proceed => cases asked
        | rejectOpen =>
          cases asked
          rw [answered]
    · rw [made]
      unfold GrpcBreakerClient.admitCall at asked
      split at asked
      · cases asked
      · next admitted admission answered =>
        cases admission with
        | rejectOpen => cases asked
        | proceed =>
          cases asked
          rw [answered]
          rfl

end GrpcResilientClient

open GrpcResilientClient StdGrpcResilientFactory

/-- A resilient client with its breaker enabled, and any run of calls through it. Each
call asks the breaker once. If it is refused the bare client is not called; else it is
called at most `max_attempts` times and the breaker is told one outcome, that of the
value the retry loop returned. So an attempt that a later one made good never counts,
and the failures that count are the calls whose value is a failure of the breaker's,
once each. The node is a function of those values and the times. -/
theorem breaker_sees_logical_calls {υ μ σ τ ρ : Type} (texts : PolicyTexts)
    (transition : BreakerTransition) (scheduler : BackoffScheduler υ) (config : ResilienceConfig)
    (client : GrpcResilientClient υ) (built : build texts transition scheduler config = .ok client)
    (enabled : config.breakerEnabled = true) (s : Around (List (EgressCall μ σ τ)))
    (calls : List (LogicalCall υ μ σ τ ρ)) :
    client.retry.config.maxAttempts = config.maxAttempts ∧
    (∀ step ∈ client.run s calls, client.OneCall step) ∧
    (client.after s calls).asked.countP Consult.isFailure =
      s.asked.countP Consult.isFailure + (client.run s calls).countP client.countsFailure ∧
    (client.after s calls).node =
      (calls.map fun c => (c.clock, outcomeOf (client.answer c))).foldl client.breaker.moved
        s.node := by
  obtain ⟨policies, standard, -, -⟩ := build_ok built
  have breaks : client.breaker.config.enabled = true := by
    rw [policies] at enabled
    exact enabled
  exact ⟨(congrArg (fun c => c.maxAttempts) policies).symm, run_oneCall breaks standard calls s,
    run_failures breaks calls s, after_node breaks calls s⟩

/-! ## A peer that is rate limiting -/

namespace RateLimited

/-- The texts of no error. -/
def texts : PolicyTexts := ⟨fun _ => "", fun _ => ""⟩

/-- Pauses of no length. -/
def scheduler : BackoffScheduler Unit := ⟨fun _ _ _ => .zero, fun _ _ _ _ => .zero⟩

/-- The client of the default configuration. -/
def client : GrpcResilientClient Unit :=
  ⟨⟨.default, .threeState⟩, ⟨.default, stdRetryClassifier, scheduler⟩⟩

/-- A raw call to a peer that is exhausted at every attempt. -/
def call : LogicalCall Unit Unit Unit Unit Unit where
  call := .callRaw ⟨"/test.Peer/Echo", [], ⟨none, .empty⟩⟩
  clock := ⟨0, 1⟩
  env := OneAttempt.stopped
  payload := OneAttempt.empty
  bare _ _ := .error (.status "/test.Peer/Echo" .resourceExhausted "" .empty)

/-- Nothing has happened yet. -/
def fresh : Around (List (EgressCall Unit Unit Unit)) := ⟨.start, [], []⟩

theorem built : build texts .threeState scheduler .default = .ok client :=
  build_fromPolicies .default .default

end RateLimited

open RateLimited in
/-- All five attempts fail, and the breaker is told of no failure. -/
theorem exhausted_call_counts_nothing :
    build texts .threeState scheduler .default = .ok client ∧
    (client.attempted call).map Prod.fst = [0, 1, 2, 3, 4] ∧
    (client.attempted call).all (fun made => (call.bare made.1 made.2).toBool == false) = true ∧
    (client.after fresh [call]).asked = [.admission 0, .record .success 1] := by
  exact ⟨built, by decide, by decide, by decide⟩

namespace RateLimited

/-- The same client with a circuit that one failure opens. -/
def breaking : GrpcResilientClient Unit := ⟨⟨oneFailureConfig, .threeState⟩, client.retry⟩

/-- A raw call at these times, to a peer that answers its attempts so. -/
def made (clock : CallClock) (bare : Nat → Except CallError Unit) :
    LogicalCall Unit Unit Unit Unit Unit :=
  { call with clock := clock, bare := fun i _ => bare i }

/-- The peer is lost twice and then answers, it is exhausted at every attempt of the next
call, it is lost at every attempt of the third, and the fourth finds the circuit open. -/
def calls : List (LogicalCall Unit Unit Unit Unit Unit) :=
  [made ⟨0, 1⟩ fun i => if i < 2 then .error (.transport "/test.Peer/Echo" .unavailable "lost")
      else .ok (),
    made ⟨2, 3⟩ fun _ => .error (.status "/test.Peer/Echo" .resourceExhausted "" .empty),
    made ⟨4, 5⟩ fun _ => .error (.transport "/test.Peer/Echo" .unavailable "lost"),
    made ⟨6, 7⟩ fun _ => .ok ()]

end RateLimited

open RateLimited in
/-- `breaker_sees_logical_calls` for four calls: the bare client is called three, five and five
times, and the breaker is told of one failure. -/
theorem breaker_sees_logical_calls_four :
    (breaking.run fresh calls).map (fun step => (breaking.attempted step.made).length) =
      [3, 5, 5, 1] ∧
    (breaking.after fresh calls).below.length = 3 + 5 + 5 ∧
    (breaking.after fresh calls).asked.countP Consult.isFailure = 0 + 1 ∧
    (breaking.after fresh calls).node = ⟨.opened 5, 0, 0⟩ := by
  have seen := breaker_sees_logical_calls texts .threeState scheduler
    (.fromPolicies .default oneFailureConfig) breaking
    (build_fromPolicies .default oneFailureConfig) rfl fresh calls
  exact ⟨by decide, by decide, seen.2.2.1.trans (by decide), seen.2.2.2.trans (by decide)⟩

end GrpcEgress
