import GrpcEgress.Contract.Values
import GrpcEgress.Lib.Text

/-!
# Which failures are retried

The `RetryClassifier` interface as the retry loop uses it, and the standard
classifier. A classifier is generic in the type of the response and has no
access to it, so it is given the result with the response forgotten.

Results:
1. `stdClassify_ok`: a response is never retried;
2. `stdClassify_retries_iff`: what is retried is a `Status` of the peer that is
   `Unavailable` or a `ResourceExhausted` without a hard quota, or a `Transport`
   failure that is `Unavailable` or `Unknown`.
-/

namespace GrpcEgress

/-- `RetryDecision`: what the loop does with the result of one attempt. -/
inductive RetryDecision where
  | success | retry | retryRateLimit | terminal
deriving DecidableEq, Repr

/-- The two methods of `RetryClassifier` that the loop calls. -/
structure RetryClassifier where
  classify : Except CallError Unit → RetryDecision
  readRetryAfter : CallError → Option Duration

/-- A result with its response forgotten: what `classify::<T>` can see of it. -/
def forget {ρ : Type} (result : Except CallError ρ) : Except CallError Unit :=
  result.map fun _ => ()

/-- `Result::err`. -/
def errOf {ρ : Type} : Except CallError ρ → Option CallError
  | .ok _ => none
  | .error e => some e

/-- `ResourceExhaustedContext`. -/
inductive ResourceExhaustedContext where
  | capacity | rateLimit | hardQuota
deriving DecidableEq, Repr

namespace StdRetryClassifier

/-- `RETRY_AFTER_KEYS`: trailers that carry the time to wait, in whole seconds. -/
def retryAfterKeys : List String := ["retry-after", "x-ratelimit-reset-requests"]

/-- `classify_resource_exhausted`: the cause, from well-known words of the message. -/
def classifyResourceExhausted (message : String) : ResourceExhaustedContext :=
  let msg := Text.asciiLower message.toList
  if Text.contains "quota".toList msg || Text.contains "billing".toList msg ||
      Text.contains "plan limit".toList msg then .hardQuota
  else if Text.contains "rate".toList msg || Text.contains "too many requests".toList msg ||
      Text.contains "throttl".toList msg then .rateLimit
  else .capacity

/-- `classify_status`. -/
def classifyStatus (code : StatusCode) (msg : String) : RetryDecision :=
  match code with
  | .unavailable => .retry
  | .resourceExhausted =>
    match classifyResourceExhausted msg with
    | .hardQuota => .terminal
    | .rateLimit => .retryRateLimit
    | .capacity => .retry
  | _ => .terminal

/-- `classify`. -/
def classify : Except CallError Unit → RetryDecision
  | .ok _ => .success
  | .error (.status _ code message _) => classifyStatus code message
  | .error (.transport _ code _) =>
    match code with
    | .unavailable | .unknown => .retry
    | _ => .terminal
  | .error (.encode _) => .terminal
  | .error (.decode _) => .terminal

/-- `parse_retry_after_hint`: the number between the first `[retry-after=` and the
first `s` after it. -/
def parseRetryAfterHint (message : String) : Option Duration := do
  let rest ← Text.afterFirst "[retry-after=".toList message.toList
  let digits ← Text.beforeFirst 's' rest
  let secs ← Text.parseU64 digits
  some (Duration.fromSecs secs)

/-- The values of the text entries named `key`, in order. -/
def valuesOf (metadata : Metadata) (key : String) : List String :=
  (metadata.text.filter fun entry => entry.1 == key).map Prod.snd

/-- `read_retry_after`: the first trailer of the two keys whose first value is a
number, else the hint of the message; only a `Status` has either. -/
def readRetryAfter : CallError → Option Duration
  | .status _ _ message trailers =>
    let fromTrailers := retryAfterKeys.findSome? fun key =>
      (valuesOf trailers key).head?.bind fun value => Text.parseU64 (Text.trim value.toList)
    match fromTrailers with
    | some secs => some (Duration.fromSecs secs)
    | none => parseRetryAfterHint message
  | _ => none

end StdRetryClassifier

/-- `StdRetryClassifier`. -/
def stdRetryClassifier : RetryClassifier where
  classify := StdRetryClassifier.classify
  readRetryAfter := StdRetryClassifier.readRetryAfter

/-- The decisions after which the loop makes another attempt when it may. -/
def RetryDecision.retries : RetryDecision → Bool
  | .retry | .retryRateLimit => true
  | .success | .terminal => false

/-- The loop can be left with no recorded failure only under a classifier that
retries a response; this one says that a classifier does not. -/
def RetryClassifier.RetriesOnlyFailures (classifier : RetryClassifier) : Prop :=
  ∀ u, (classifier.classify (.ok u)).retries = false

/-- The standard classifier never retries a response. -/
theorem stdClassify_ok : stdRetryClassifier.RetriesOnlyFailures := fun _ => rfl

/-- The failures the interface documents as retried: the peer is `Unavailable`, or
`ResourceExhausted` for another reason than a hard quota, or was not reached. -/
def CallError.Retryable : CallError → Prop
  | .status _ code message _ => code = .unavailable ∨
      (code = .resourceExhausted ∧
        StdRetryClassifier.classifyResourceExhausted message ≠ .hardQuota)
  | .transport _ code _ => code = .unavailable ∨ code = .unknown
  | .encode _ => False
  | .decode _ => False

/-- The standard classifier retries the documented failures and nothing else. -/
theorem stdClassify_retries_iff (e : CallError) :
    (stdRetryClassifier.classify (.error e)).retries = true ↔ e.Retryable := by
  cases e with
  | transport path code reason =>
    cases code <;> simp [stdRetryClassifier, StdRetryClassifier.classify, CallError.Retryable,
      RetryDecision.retries]
  | status path code message trailers =>
    cases code with
    | resourceExhausted =>
      simp only [stdRetryClassifier, StdRetryClassifier.classify,
        StdRetryClassifier.classifyStatus, CallError.Retryable]
      cases StdRetryClassifier.classifyResourceExhausted message <;>
        simp [RetryDecision.retries]
    | _ => simp [stdRetryClassifier, StdRetryClassifier.classify,
        StdRetryClassifier.classifyStatus, CallError.Retryable, RetryDecision.retries]
  | encode reason => exact ⟨nofun, False.elim⟩
  | decode reason => exact ⟨nofun, False.elim⟩

end GrpcEgress
