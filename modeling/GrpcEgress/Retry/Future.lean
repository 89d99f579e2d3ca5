import GrpcEgress.Retry.Requests
import GrpcEgress.Lib.Runs

/-!
# A retried call between its suspension points

The future of a call of `GrpcRetryClient` is suspended at two places: while the wrapped
client has an attempt, and during a pause. `RetryFuture` is that future: `step` runs it
from one suspension point to the next, with what it reads on the way. What happens
elsewhere in between is not its concern, so any number of calls can be on their way at
once, each with a future of its own.

`readings` and `events` are ghosts: all that the future has read so far, and the trace of
its run. A step looks at no reading that was not made.

1. `passOf_eq`: the body of the loop, cut at the place where it awaits its attempt;
2. `step_sound`: what a suspended future has come to, whatever it may read later;
3. `resumed_call_is_make`: however a call is resumed, it is `make` on what it has read.
-/

namespace GrpcEgress

/-- The attempt closure as far as the wrapped client: the call that it hands over, or the
failure that it comes to first. -/
abbrev AttemptClosure (ε : Type) := Nat → Option Duration → Except CallError ε

/-- What a call reads while it runs: the clock, the jitter, and what the wrapped client
answers to its `i`-th invocation. -/
structure Readings (υ ρ : Type) extends Surroundings υ where
  answers : Nat → Except CallError ρ

/-- One `run_with_retry`, but for what it reads. -/
structure RetryJob (υ ε : Type) where
  config : GrpcRetryConfig
  classifier : RetryClassifier
  scheduler : BackoffScheduler υ
  path : String
  totalBudget : Option Duration
  closure : AttemptClosure ε

/-- What a call of `GrpcRetryClient` does: it fails before anything is sent, is forwarded
once, or runs the loop. -/
inductive RetryPlan (υ ε : Type) where
  | refused (error : CallError)
  | forward (timeout : Option Duration) (call : ε)
  | loop (job : RetryJob υ ε)

/-- Where the future of a call stands. -/
inductive RetryPhase (ρ : Type) where
  /-- It was not polled yet. -/
  | fresh
  /-- The wrapped client has the call, which is not retried. -/
  | forwarding
  /-- The wrapped client has the attempt of iteration `index`. -/
  | attempting (index : Nat) (state : RetryState) (timeout : Option Duration)
  /-- The pause after iteration `index`, with the variables of the next one. -/
  | sleeping (index : Nat) (state : RetryState) (sleepFor : Duration)
  /-- It is done; with no result if a counter overflowed. -/
  | ended (result : Option (Except CallError ρ))

/-- What a future is resumed by: a poll at its start or when its pause is over, or the
answer of the wrapped client. The clock is read each time, the jitter in the second case. -/
inductive Resume (υ ρ : Type) where
  | poll (elapsed : Duration)
  | answer (result : Except CallError ρ) (jitter : υ) (elapsed : Duration)

structure RetryFuture (υ ε ρ : Type) where
  readings : Readings υ ρ
  phase : RetryPhase ρ
  events : List (RetryEvent ε)

variable {υ ε μ σ τ ρ : Type}

namespace Readings

/-- The clock is read at the top of iteration `i`. -/
def readTop (r : Readings υ ρ) (i : Nat) (elapsed : Duration) : Readings υ ρ :=
  { r with elapsedBefore := fun j => if j = i then elapsed else r.elapsedBefore j }

/-- The attempt of iteration `i` is answered. -/
def readAnswer (r : Readings υ ρ) (i : Nat) (answer : Except CallError ρ) (jitter : υ)
    (elapsed : Duration) : Readings υ ρ where
  elapsedBefore := r.elapsedBefore
  elapsedAfter := fun j => if j = i then elapsed else r.elapsedAfter j
  jitter := fun j => if j = i then jitter else r.jitter j
  answers := fun j => if j = i then answer else r.answers j

theorem readAnswer_self (r : Readings υ ρ) (i : Nat) (answer : Except CallError ρ) (jitter : υ)
    (elapsed : Duration) : (r.readAnswer i answer jitter elapsed).answers i = answer := if_pos rfl

theorem readAnswer_other (r : Readings υ ρ) (i : Nat) (answer : Except CallError ρ) (jitter : υ)
    (elapsed : Duration) (j : Nat) (other : j ≠ i) :
    (r.readAnswer i answer jitter elapsed).answers j = r.answers j := if_neg other

/-- Other readings that are the same at the first `tops` clock readings and at the first
`attempts` answers. -/
structure Extended (tops attempts : Nat) (r r' : Readings υ ρ) : Prop where
  elapsedBefore : ∀ j < tops, r'.elapsedBefore j = r.elapsedBefore j
  elapsedAfter : ∀ j < attempts, r'.elapsedAfter j = r.elapsedAfter j
  jitter : ∀ j < attempts, r'.jitter j = r.jitter j
  answers : ∀ j < attempts, r'.answers j = r.answers j

theorem Extended.refl (tops attempts : Nat) (r : Readings υ ρ) : r.Extended tops attempts r :=
  ⟨fun _ _ => rfl, fun _ _ => rfl, fun _ _ => rfl, fun _ _ => rfl⟩

theorem extended_of_readTop {r r' : Readings υ ρ} {i attempts : Nat} {elapsed : Duration}
    (h : (r.readTop i elapsed).Extended (i + 1) attempts r') :
    r.Extended i attempts r' ∧ r'.elapsedBefore i = elapsed := by
  refine ⟨⟨fun j below => ?_, h.elapsedAfter, h.jitter, h.answers⟩, ?_⟩
  · rw [h.elapsedBefore j (Nat.lt_succ_of_lt below)]
    exact if_neg (Nat.ne_of_lt below)
  · rw [h.elapsedBefore i (Nat.lt_succ_self i)]
    exact if_pos rfl

theorem extended_of_readAnswer {r r' : Readings υ ρ} {i tops : Nat} {answer : Except CallError ρ}
    {jitter : υ} {elapsed : Duration}
    (h : (r.readAnswer i answer jitter elapsed).Extended tops (i + 1) r') :
    r.Extended tops i r' ∧ r'.elapsedAfter i = elapsed ∧ r'.jitter i = jitter ∧
      r'.answers i = answer := by
  have other : ∀ j < i, j ≠ i := fun j below => Nat.ne_of_lt below
  refine ⟨⟨h.elapsedBefore, fun j below => ?_, fun j below => ?_, fun j below => ?_⟩, ?_, ?_, ?_⟩
  · rw [h.elapsedAfter j (Nat.lt_succ_of_lt below)]
    exact if_neg (other j below)
  · rw [h.jitter j (Nat.lt_succ_of_lt below)]
    exact if_neg (other j below)
  · rw [h.answers j (Nat.lt_succ_of_lt below)]
    exact if_neg (other j below)
  · rw [h.elapsedAfter i (Nat.lt_succ_self i)]
    exact if_pos rfl
  · rw [h.jitter i (Nat.lt_succ_self i)]
    exact if_pos rfl
  · rw [h.answers i (Nat.lt_succ_self i)]
    exact if_pos rfl

end Readings

/-! ## The loop, cut at its awaits -/

namespace RetryJob

variable (job : RetryJob υ ε)

/-- What the attempt of iteration `i` hands over. -/
def sends (i : Nat) (timeout : Option Duration) : List ε :=
  match job.closure i timeout with
  | .ok call => [call]
  | .error _ => []

/-- The result of that attempt when the wrapped client answers with `answer`. -/
def attempted (i : Nat) (timeout : Option Duration) (answer : Except CallError ρ) :
    Except CallError ρ :=
  match job.closure i timeout with
  | .ok _ => answer
  | .error e => .error e

/-- The run of the loop on given readings. -/
def input (r : Readings υ ρ) : RetryInput υ ε ρ where
  config := job.config
  classifier := job.classifier
  scheduler := job.scheduler
  path := job.path
  totalBudget := job.totalBudget
  elapsedBefore := r.elapsedBefore
  elapsedAfter := r.elapsedAfter
  jitter := r.jitter
  attempt := fun i timeout => ⟨job.sends i timeout, job.attempted i timeout (r.answers i)⟩

@[simp] theorem input_config (r : Readings υ ρ) : (job.input r).config = job.config := rfl
@[simp] theorem input_classifier (r : Readings υ ρ) :
    (job.input r).classifier = job.classifier := rfl
@[simp] theorem input_scheduler (r : Readings υ ρ) : (job.input r).scheduler = job.scheduler := rfl
@[simp] theorem input_path (r : Readings υ ρ) : (job.input r).path = job.path := rfl
@[simp] theorem input_jitter (r : Readings υ ρ) : (job.input r).jitter = r.jitter := rfl
@[simp] theorem input_attempt (r : Readings υ ρ) (i : Nat) (timeout : Option Duration) :
    (job.input r).attempt i timeout =
      ⟨job.sends i timeout, job.attempted i timeout (r.answers i)⟩ := rfl

/-- The variables of the loop at its start. -/
def start : RetryState := ⟨0, 0, none⟩

/-- An iteration from the moment its attempt is answered: a pause with the variables of
the next iteration, or the way out of the loop. -/
def settled (r : Readings υ ρ) (i : Nat) (st : RetryState) (timeout : Option Duration) :
    (RetryState × Duration) ⊕ LoopExit ρ :=
  let result := job.attempted i timeout (r.answers i)
  match job.classifier.classify (forget result) with
  | .success => .inr (.returned result)
  | .terminal => .inr (.returned result)
  | .retry =>
    let lastError := errOf result
    match succU32 st.standardAttempt with
    | none => .inr .overflowed
    | some nextAttempt =>
      if job.config.maxAttempts.toNat ≤ nextAttempt then .inr (.broke lastError)
      else
        let sleepFor := job.scheduler.nextBackoff job.config st.standardAttempt (r.jitter i)
        if (job.input r).budgetAllowsSleep sleepFor i then
          .inl (⟨nextAttempt, st.rateLimAttempt, lastError⟩, sleepFor)
        else .inr (.broke lastError)
  | .retryRateLimit =>
    let lastError := errOf result
    match succU32 st.rateLimAttempt with
    | none => .inr .overflowed
    | some nextRl =>
      if job.config.rateLimitMaxAttempts.toNat < nextRl then .inr (.broke lastError)
      else
        let hint := lastError.bind job.classifier.readRetryAfter
        let sleepFor :=
          job.scheduler.rateLimitBackoff job.config st.rateLimAttempt hint (r.jitter i)
        if (job.input r).budgetAllowsSleep sleepFor i then
          .inl (⟨st.standardAttempt, nextRl, lastError⟩, sleepFor)
        else .inr (.broke lastError)

/-- The answer of a run that leaves its loop. -/
def exitResult : LoopExit ρ → Option (Except CallError ρ)
  | .returned result => some result
  | .broke lastError => some (.error (lastError.getD (exhaustedAttempts job.path)))
  | .overflowed => none

/-- The pass of an iteration whose attempt is settled so. -/
def passOf (i : Nat) (timeout : Option Duration) :
    (RetryState × Duration) ⊕ LoopExit ρ → RangeLoop.Pass (RetryEvent ε) RetryState (LoopExit ρ)
  | .inl (st, sleepFor) => .again [.attempt i timeout (job.sends i timeout), .pause i sleepFor] st
  | .inr exit => .exit [.attempt i timeout (job.sends i timeout)] exit

end RetryJob

namespace RetryPlan

/-- The run of a call on given readings. -/
def outcome (plan : RetryPlan υ ε) (r : Readings υ ρ) : RetryOutcome ε ρ :=
  match plan with
  | .refused error => ⟨[], some (.error error)⟩
  | .forward timeout call => ⟨[.attempt 0 timeout [call]], some (r.answers 0)⟩
  | .loop job => (job.input r).runWithRetry

end RetryPlan

namespace RetryFuture

/-- The future of a call that was not polled yet. Its readings are those still to come. -/
def start (r : Readings υ ρ) : RetryFuture υ ε ρ := ⟨r, .fresh, []⟩

/-- The loop at the top of iteration `i`, as far as its next await. -/
def enter (job : RetryJob υ ε) (f : RetryFuture υ ε ρ) (i : Nat) (st : RetryState)
    (elapsed : Duration) : RetryFuture υ ε ρ :=
  if i < job.config.maxAttempts.toNat then
    let readings := f.readings.readTop i elapsed
    match (job.input readings).remaining i with
    | none =>
      ⟨readings, .ended (some (.error (st.lastError.getD (deadlineExhausted job.path)))), f.events⟩
    | some timeout =>
      ⟨readings, .attempting i st timeout,
        f.events ++ [.attempt i timeout (job.sends i timeout)]⟩
  else { f with phase := .ended (some (.error (st.lastError.getD (exhaustedAttempts job.path)))) }

/-- The loop from the answer to the attempt of iteration `i`, as far as its next await. -/
def settle (job : RetryJob υ ε) (f : RetryFuture υ ε ρ) (i : Nat) (st : RetryState)
    (timeout : Option Duration) (answer : Except CallError ρ) (jitter : υ) (elapsed : Duration) :
    RetryFuture υ ε ρ :=
  let readings := f.readings.readAnswer i answer jitter elapsed
  match job.settled readings i st timeout with
  | .inl (st, sleepFor) => ⟨readings, .sleeping i st sleepFor, f.events ++ [.pause i sleepFor]⟩
  | .inr exit => ⟨readings, .ended (job.exitResult exit), f.events⟩

/-- The future is resumed, if what it is resumed by is what it waits for. -/
def step (plan : RetryPlan υ ε) (f : RetryFuture υ ε ρ) :
    Resume υ ρ → Option (RetryFuture υ ε ρ)
  | .poll elapsed =>
    match f.phase, plan with
    | .fresh, .refused error => some { f with phase := .ended (some (.error error)) }
    | .fresh, .forward timeout call =>
      some { f with phase := .forwarding, events := f.events ++ [.attempt 0 timeout [call]] }
    | .fresh, .loop job => some (enter job f 0 RetryJob.start elapsed)
    | .sleeping i st _, .loop job => some (enter job f (i + 1) st elapsed)
    | _, _ => none
  | .answer result jitter elapsed =>
    match f.phase, plan with
    | .forwarding, .forward _ _ =>
      some ⟨f.readings.readAnswer 0 result jitter elapsed, .ended (some result), f.events⟩
    | .attempting i st timeout, .loop job =>
      some (settle job f i st timeout result jitter elapsed)
    | _, _ => none

end RetryFuture

namespace GrpcRetryClient

variable (client : GrpcRetryClient υ) (payload : Payload μ)

/-- A loop of the client. -/
def job (path : String) (totalBudget : Option Duration) (closure : AttemptClosure ε) :
    RetryJob υ ε :=
  ⟨client.config, client.classifier, client.scheduler, path, totalBudget, closure⟩

/-- The attempt closure of `call`, as far as the wrapped client. -/
def typedClosure (path : String) (request : CallRequest μ) (encoded : List UInt8) :
    AttemptClosure (EgressCall μ σ τ) := fun i timeout =>
  let message := if i = 0 then .ok request.message else payload.decode encoded
  match message with
  | .ok message => .ok (.call path ⟨message, ⟨timeout, request.options.metadata⟩⟩)
  | .error reason => .error (.decode reason)

/-- The attempt closure of `call_raw`, as far as the wrapped client. -/
def rawClosure (request : CallRawRequest) : AttemptClosure (EgressCall μ σ τ) :=
  fun _ timeout =>
    .ok (.callRaw ⟨request.path, request.message, ⟨timeout, request.options.metadata⟩⟩)

/-- What a call does before its first await. -/
def plan : EgressCall μ σ τ → RetryPlan υ (EgressCall μ σ τ)
  | .call path request =>
    if client.config.maxAttempts.toNat ≤ 1 then
      .forward request.options.timeout (.call path request)
    else
      match payload.encode request.message with
      | .error reason => .refused (.encode reason)
      | .ok encoded =>
        .loop (client.job path request.options.timeout (typedClosure payload path request encoded))
  | .callRaw request => .loop (client.job request.path request.options.timeout (rawClosure request))
  | .callServerStream path request =>
    .forward request.options.timeout (.callServerStream path request)
  | .callClientStream path request =>
    .forward request.options.timeout (.callClientStream path request)
  | .callBidiStream path request =>
    .forward request.options.timeout (.callBidiStream path request)
  | .callRawServerStream ⟨path, message, options⟩ =>
    .forward options.timeout (.callRawServerStream ⟨path, message, options⟩)
  | .callRawClientStream ⟨path, requests, options⟩ =>
    .forward options.timeout (.callRawClientStream ⟨path, requests, options⟩)
  | .callRawBidiStream ⟨path, requests, options⟩ =>
    .forward options.timeout (.callRawBidiStream ⟨path, requests, options⟩)

/-- `make` on given readings. -/
def makeOn (call : EgressCall μ σ τ) (r : Readings υ ρ) : RetryOutcome (EgressCall μ σ τ) ρ :=
  client.make r.toSurroundings payload (fun i _ => r.answers i) call

variable {client payload}

theorem map_id (result : Except CallError ρ) : result.map id = result := by
  cases result with
  | error e => rfl
  | ok response => rfl

/-- The loop that a plan runs is the loop of `make`. -/
theorem outcome_loop {path : String} {totalBudget : Option Duration}
    {closure : AttemptClosure (EgressCall μ σ τ)} {f : ε → EgressCall μ σ τ} (r : Readings υ ρ)
    {attempt : Nat → Option Duration → Attempt ε ρ}
    (sent : ∀ i timeout, (client.job path totalBudget closure).sends i timeout =
      (attempt i timeout).sent.map f)
    (result : ∀ i timeout,
      (client.job path totalBudget closure).attempted i timeout (r.answers i) =
        (attempt i timeout).result) :
    (RetryPlan.loop (client.job path totalBudget closure)).outcome r =
      (client.retryInput r.toSurroundings path totalBudget attempt).runWithRetry.translate f
        id := by
  apply RetryInput.runWithRetry_translate
  constructor
  case sent => exact sent
  case result =>
    intro i timeout
    exact (result i timeout).trans (map_id _).symm
  all_goals rfl

theorem makeOn_eq (call : EgressCall μ σ τ) (r : Readings υ ρ) :
    client.makeOn payload call r = (client.plan payload call).outcome r := by
  cases call with
  | call path request =>
    by_cases one : client.config.maxAttempts.toNat ≤ 1
    · simp only [makeOn, make, GrpcRetryClient.call, plan, if_pos one, RetryOutcome.translate,
        RetryPlan.outcome, Option.map_some, map_id]
      rfl
    · simp only [makeOn, make, GrpcRetryClient.call, plan, if_neg one]
      cases payload.encode request.message with
      | error reason => rfl
      | ok encoded =>
        refine (outcome_loop r (fun i timeout => ?_) fun i timeout => ?_).symm
        · simp only [RetryJob.sends, job, typedClosure, typedAttempt]
          generalize (if i = 0 then .ok request.message else payload.decode encoded) = message
          cases message with
          | error reason => rfl
          | ok message => rfl
        · simp only [RetryJob.attempted, job, typedClosure, typedAttempt]
          generalize (if i = 0 then .ok request.message else payload.decode encoded) = message
          cases message with
          | error reason => rfl
          | ok message => rfl
  | callRaw request => exact (outcome_loop r (fun _ _ => rfl) fun _ _ => rfl).symm
  | callServerStream | callClientStream | callBidiStream => rfl
  | callRawServerStream | callRawClientStream | callRawBidiStream => rfl

end GrpcRetryClient

namespace RetryJob

/-- The body of the loop, cut at its await: an iteration whose attempt takes `timeout`. -/
theorem passOf_eq (job : RetryJob υ ε) (r : Readings υ ρ) {i : Nat} {timeout : Option Duration}
    (due : (job.input r).remaining i = some timeout) (st : RetryState) :
    (job.input r).pass i st = job.passOf i timeout (job.settled r i st timeout) := by
  simp only [RetryInput.pass, due, settled, input_config, input_classifier, input_scheduler,
    input_jitter, input_attempt]
  cases job.classifier.classify (forget (job.attempted i timeout (r.answers i))) with
  | success => rfl
  | terminal => rfl
  | retry =>
    dsimp only
    cases succU32 st.standardAttempt with
    | none => rfl
    | some nextAttempt =>
      dsimp only
      split
      · next last => exact if_pos last
      · next more =>
        refine (if_neg more).trans ?_
        split
        · next fits => exact if_pos fits
        · next late => exact if_neg late
  | retryRateLimit =>
    dsimp only
    cases succU32 st.rateLimAttempt with
    | none => rfl
    | some nextRl =>
      dsimp only
      split
      · next last => exact if_pos last
      · next more =>
        refine (if_neg more).trans ?_
        split
        · next fits => exact if_pos fits
        · next late => exact if_neg late

/-- An iteration that finds the budget spent. -/
theorem pass_of_spent (job : RetryJob υ ε) (r : Readings υ ρ) {i : Nat}
    (spent : (job.input r).remaining i = none) (st : RetryState) :
    (job.input r).pass i st =
      .exit [] (.returned (.error (st.lastError.getD (deadlineExhausted job.path)))) := by
  simp only [RetryInput.pass, spent, input_path]

/-- The time left at the top of an iteration depends on the clock reading there. -/
theorem remaining_congr (job : RetryJob υ ε) {r r' : Readings υ ρ} {i : Nat}
    (same : r'.elapsedBefore i = r.elapsedBefore i) :
    (job.input r').remaining i = (job.input r).remaining i := by
  simp only [RetryInput.remaining, input, same]

/-- How an attempt is settled depends on what is read then. -/
theorem settled_congr (job : RetryJob υ ε) {r r' : Readings υ ρ} {i : Nat}
    (elapsedAfter : r'.elapsedAfter i = r.elapsedAfter i) (jitter : r'.jitter i = r.jitter i)
    (answers : r'.answers i = r.answers i) (st : RetryState) (timeout : Option Duration) :
    job.settled r' i st timeout = job.settled r i st timeout := by
  have fits : ∀ sleepFor, (job.input r').budgetAllowsSleep sleepFor i =
      (job.input r).budgetAllowsSleep sleepFor i := by
    intro sleepFor
    simp only [RetryInput.budgetAllowsSleep, input, elapsedAfter]
  simp only [settled, jitter, answers, fits]

/-- The loop on given readings, from the top of iteration `i`. -/
abbrev Reached (job : RetryJob υ ε) (r : Readings υ ρ) (i : Nat) (st : RetryState)
    (events : List (RetryEvent ε)) : Prop :=
  RangeLoop.Reached (job.input r).pass job.config.maxAttempts.toNat start i st events

theorem outcome_of_exit {job : RetryJob υ ε} {r : Readings υ ρ} {events : List (RetryEvent ε)}
    {exit : LoopExit ρ}
    (left : RangeLoop.run (job.input r).pass job.config.maxAttempts.toNat 0 start =
      (events, .inr exit)) :
    (RetryPlan.loop job).outcome r = ⟨events, job.exitResult exit⟩ := by
  show (job.input r).runWithRetry = _
  unfold RetryInput.runWithRetry
  rw [input_config, show (⟨0, 0, none⟩ : RetryState) = start from rfl, left]
  cases exit with
  | returned result => rfl
  | broke lastError => rfl
  | overflowed => rfl

theorem outcome_of_exhausted {job : RetryJob υ ε} {r : Readings υ ρ}
    {events : List (RetryEvent ε)} {st : RetryState}
    (left : RangeLoop.run (job.input r).pass job.config.maxAttempts.toNat 0 start =
      (events, .inl st)) :
    (RetryPlan.loop job).outcome r =
      ⟨events, some (.error (st.lastError.getD (exhaustedAttempts job.path)))⟩ := by
  show (job.input r).runWithRetry = _
  unfold RetryInput.runWithRetry
  rw [input_config, show (⟨0, 0, none⟩ : RetryState) = start from rfl, left]
  rfl

end RetryJob

/-! ## What a suspended future has come to -/

/-- How often a call can be resumed. -/
def RetryPlan.resumptions : RetryPlan υ ε → Nat
  | .refused _ => 1
  | .forward _ _ => 2
  | .loop job => 2 * job.config.maxAttempts.toNat + 1

namespace RetryFuture

/-- The future after `n` resumptions: on the readings that were made, and whatever the
other readings will be, the loop comes to where the future stands, with its events. -/
inductive Sound (plan : RetryPlan υ ε) : Nat → RetryFuture υ ε ρ → Prop
  | fresh (r : Readings υ ρ) : Sound plan 0 ⟨r, .fresh, []⟩
  | forwarding {timeout : Option Duration} {call : ε} (r : Readings υ ρ) :
      plan = .forward timeout call → Sound plan 1 ⟨r, .forwarding, [.attempt 0 timeout [call]]⟩
  | attempting {job : RetryJob υ ε} {r : Readings υ ρ} {i : Nat} {st : RetryState}
      {timeout : Option Duration} {events : List (RetryEvent ε)} :
      plan = .loop job → i < job.config.maxAttempts.toNat →
      (job.input r).remaining i = some timeout →
      (∀ r', r.Extended (i + 1) i r' → job.Reached r' i st events) →
      Sound plan (2 * i + 1) ⟨r, .attempting i st timeout,
        events ++ [.attempt i timeout (job.sends i timeout)]⟩
  | sleeping {job : RetryJob υ ε} {r : Readings υ ρ} {i : Nat} {st : RetryState}
      {sleepFor : Duration} {events : List (RetryEvent ε)} :
      plan = .loop job → i < job.config.maxAttempts.toNat →
      (∀ r', r.Extended (i + 1) (i + 1) r' → job.Reached r' (i + 1) st events) →
      Sound plan (2 * i + 2) ⟨r, .sleeping i st sleepFor, events⟩
  | ended {r : Readings υ ρ} {n : Nat} {result : Option (Except CallError ρ)}
      {events : List (RetryEvent ε)} : n ≤ plan.resumptions →
      plan.outcome r = ⟨events, result⟩ → Sound plan n ⟨r, .ended result, events⟩

/-- Other readings with which the future would have come to the same point. -/
def Known (f : RetryFuture υ ε ρ) (r : Readings υ ρ) : Prop :=
  match f.phase with
  | .fresh | .forwarding => True
  | .attempting i _ _ => f.readings.Extended (i + 1) i r
  | .sleeping i _ _ => f.readings.Extended (i + 1) (i + 1) r
  | .ended _ => r = f.readings

theorem known_self (f : RetryFuture υ ε ρ) : f.Known f.readings := by
  unfold Known
  cases f.phase with
  | fresh | forwarding => trivial
  | attempting i st timeout => exact .refl _ _ _
  | sleeping i st sleepFor => exact .refl _ _ _
  | ended result => rfl

/-- The calls that the future has handed over. -/
def sent (f : RetryFuture υ ε ρ) : List ε :=
  RetryOutcome.sent (⟨f.events, none⟩ : RetryOutcome ε ρ)

variable {plan : RetryPlan υ ε} {job : RetryJob υ ε}

/-- The loop comes to the top of an iteration. -/
theorem enter_sound (loops : plan = .loop job) {f : RetryFuture υ ε ρ} {i : Nat} {st : RetryState}
    (within : i ≤ job.config.maxAttempts.toNat)
    (reached : ∀ r', f.readings.Extended i i r' → job.Reached r' i st f.events)
    (elapsed : Duration) : Sound plan (2 * i + 1) (enter job f i st elapsed) := by
  have few : 2 * i + 1 ≤ plan.resumptions := by
    rw [loops]
    exact Nat.succ_le_succ (Nat.mul_le_mul_left 2 within)
  unfold enter
  by_cases below : i < job.config.maxAttempts.toNat
  · rw [if_pos below]
    have earlier : ∀ r', (f.readings.readTop i elapsed).Extended (i + 1) i r' →
        job.Reached r' i st f.events :=
      fun r' known => reached r' (Readings.extended_of_readTop known).1
    dsimp only
    cases due : (job.input (f.readings.readTop i elapsed)).remaining i with
    | none =>
      have left := (earlier _ (.refl _ _ _)).exit below (job.pass_of_spent _ due st)
      rw [List.append_nil] at left
      exact .ended few (loops ▸ RetryJob.outcome_of_exit left)
    | some timeout => exact .attempting loops below due earlier
  · rw [if_neg below]
    have left := (reached _ (.refl _ _ _)).exhausted (Nat.not_lt.mp below)
    exact .ended few (loops ▸ RetryJob.outcome_of_exhausted left)

/-- The attempt of an iteration is settled. -/
theorem settle_sound (loops : plan = .loop job) {f : RetryFuture υ ε ρ} {i : Nat}
    {st : RetryState} {timeout : Option Duration} {events : List (RetryEvent ε)}
    (below : i < job.config.maxAttempts.toNat)
    (due : (job.input f.readings).remaining i = some timeout)
    (reached : ∀ r', f.readings.Extended (i + 1) i r' → job.Reached r' i st events)
    (written : f.events = events ++ [.attempt i timeout (job.sends i timeout)])
    (answer : Except CallError ρ) (jitter : υ) (elapsed : Duration) :
    Sound plan (2 * i + 2) (settle job f i st timeout answer jitter elapsed) := by
  have pass : ∀ r', (f.readings.readAnswer i answer jitter elapsed).Extended (i + 1) (i + 1) r' →
      job.Reached r' i st events ∧ (job.input r').pass i st = job.passOf i timeout
        (job.settled (f.readings.readAnswer i answer jitter elapsed) i st timeout) := by
    intro r' known
    obtain ⟨earlier, -, -, -⟩ := Readings.extended_of_readAnswer known
    have same : (job.input r').remaining i = some timeout :=
      (job.remaining_congr (earlier.elapsedBefore i (Nat.lt_succ_self i))).trans due
    have alike := job.settled_congr (known.elapsedAfter i (Nat.lt_succ_self i))
      (known.jitter i (Nat.lt_succ_self i)) (known.answers i (Nat.lt_succ_self i)) st timeout
    exact ⟨reached r' earlier, (job.passOf_eq r' same st).trans (congrArg _ alike)⟩
  unfold settle
  dsimp only
  cases settles : job.settled (f.readings.readAnswer i answer jitter elapsed) i st timeout with
  | inl next =>
    obtain ⟨st', sleepFor⟩ := next
    refine .sleeping loops below fun r' known => ?_
    obtain ⟨here, goesOn⟩ := pass r' known
    rw [settles] at goesOn
    have there := here.again below goesOn
    rw [written, List.append_assoc]
    exact there
  | inr exit =>
    obtain ⟨here, leaves⟩ := pass _ (.refl _ _ _)
    rw [settles] at leaves
    have left := here.exit below leaves
    rw [← written] at left
    have few : 2 * i + 2 ≤ plan.resumptions := by
      rw [loops]
      show 2 * i + 2 ≤ 2 * job.config.maxAttempts.toNat + 1
      omega
    exact .ended few (loops ▸ RetryJob.outcome_of_exit left)

/-- What one resumption keeps. -/
theorem step_sound {n : Nat} {f f' : RetryFuture υ ε ρ} (sound : Sound plan n f)
    {resume : Resume υ ρ} (stepped : f.step plan resume = some f') : Sound plan (n + 1) f' := by
  cases sound with
  | fresh r =>
    cases resume with
    | poll elapsed =>
      cases plan with
      | refused error =>
        cases stepped
        exact .ended (Nat.le_refl 1) rfl
      | forward timeout call =>
        cases stepped
        exact .forwarding r rfl
      | loop job =>
        cases stepped
        exact enter_sound rfl (Nat.zero_le _) (fun r' _ => RangeLoop.Reached.here) elapsed
    | answer result jitter elapsed => cases plan <;> cases stepped
  | forwarding r forwards =>
    subst forwards
    cases resume with
    | poll elapsed => cases stepped
    | answer result jitter elapsed =>
      cases stepped
      exact .ended (Nat.le_refl 2) rfl
  | attempting loops below due reached =>
    subst loops
    cases resume with
    | poll elapsed => cases stepped
    | answer result jitter elapsed =>
      cases stepped
      exact settle_sound rfl below due reached rfl result jitter elapsed
  | sleeping loops below reached =>
    subst loops
    cases resume with
    | poll elapsed =>
      cases stepped
      exact enter_sound rfl below reached elapsed
    | answer result jitter elapsed => cases stepped
  | ended few outcome =>
    cases resume with
    | poll elapsed => cases plan <;> cases stepped
    | answer result jitter elapsed => cases plan <;> cases stepped

/-- A resumption adds to the trace. -/
theorem step_events {f f' : RetryFuture υ ε ρ} {resume : Resume υ ρ}
    (stepped : f.step plan resume = some f') : ∃ more, f'.events = f.events ++ more := by
  have entered : ∀ (job : RetryJob υ ε) (i : Nat) (st : RetryState) (elapsed : Duration),
      ∃ more, (enter job f i st elapsed).events = f.events ++ more := by
    intro job i st elapsed
    unfold enter
    split
    · dsimp only
      split
      · exact ⟨[], (List.append_nil _).symm⟩
      · exact ⟨[_], rfl⟩
    · exact ⟨[], (List.append_nil _).symm⟩
  unfold step at stepped
  cases resume with
  | poll elapsed =>
    dsimp only at stepped
    split at stepped
    · cases stepped
      exact ⟨[], (List.append_nil _).symm⟩
    · cases stepped
      exact ⟨[_], rfl⟩
    · cases stepped
      exact entered _ _ _ _
    · cases stepped
      exact entered _ _ _ _
    · cases stepped
  | answer result jitter elapsed =>
    dsimp only at stepped
    split at stepped
    · cases stepped
      exact ⟨[], (List.append_nil _).symm⟩
    · cases stepped
      unfold settle
      dsimp only
      split
      · exact ⟨[_], rfl⟩
      · exact ⟨[], (List.append_nil _).symm⟩
    · cases stepped

theorem run_sound {n : Nat} {f f' : RetryFuture υ ε ρ} (sound : Sound plan n f)
    {resumes : List (Resume υ ρ)} (ran : Runs.run (step plan) f resumes = some f') :
    Sound plan (n + resumes.length) f' := by
  have history : Sound plan (n + ([] ++ resumes).length) f' :=
    Runs.run_history (fun past f => Sound plan (n + past.length) f)
      (fun past _ resume _ sound stepped => by
        rw [List.length_append]
        exact step_sound sound stepped) sound ran
  exact history

/-- No call is resumed more often than its plan allows. -/
theorem Sound.few {n : Nat} {f : RetryFuture υ ε ρ} (sound : Sound plan n f) :
    n ≤ plan.resumptions := by
  cases sound with
  | fresh r => exact Nat.zero_le _
  | forwarding r forwards =>
    rw [forwards]
    exact Nat.le_succ 1
  | attempting loops below due reached =>
    rw [loops]
    exact Nat.succ_le_succ (Nat.mul_le_mul_left 2 (Nat.le_of_lt below))
  | sleeping loops below reached =>
    rw [loops]
    exact Nat.le_succ_of_le (Nat.mul_le_mul_left 2 below)
  | ended few outcome => exact few

/-- A future that is done is the run on what it has read. -/
theorem Sound.outcome {n : Nat} {f : RetryFuture υ ε ρ} (sound : Sound plan n f)
    {result : Option (Except CallError ρ)} (done : f.phase = .ended result) :
    plan.outcome f.readings = ⟨f.events, result⟩ := by
  cases sound with
  | fresh | forwarding | attempting | sleeping => cases done
  | ended few outcome =>
    cases done
    exact outcome

/-- The events so far begin the run on any readings that agree with those made. -/
theorem Sound.events {n : Nat} {f : RetryFuture υ ε ρ} (sound : Sound plan n f)
    {r : Readings υ ρ} (known : f.Known r) :
    ∃ more, (plan.outcome r).events = f.events ++ more := by
  cases sound with
  | fresh r => exact ⟨_, rfl⟩
  | forwarding r forwards => exact ⟨[], by rw [forwards]; rfl⟩
  | @attempting job r₀ i st timeout events loops below due reached =>
    have same : (job.input r).remaining i = some timeout :=
      (job.remaining_congr (known.elapsedBefore i (Nat.lt_succ_self i))).trans due
    rw [loops]
    refine (reached r known).begun below ?_
    rw [job.passOf_eq r same st]
    cases job.settled r i st timeout with
    | inl next => exact .inl ⟨[.pause i next.2], next.1, rfl⟩
    | inr exit => exact .inr ⟨[], exit, rfl⟩
  | sleeping loops below reached =>
    rw [loops]
    exact (reached r known).written
  | ended few outcome =>
    rw [show r = _ from known, outcome]
    exact ⟨[], (List.append_nil _).symm⟩

/-- A future that is not done waits for a poll or for an answer, and goes on with any. -/
theorem Sound.resumable {n : Nat} {f : RetryFuture υ ε ρ} (sound : Sound plan n f) :
    (∃ result, f.phase = .ended result) ∨
    (∀ elapsed, ∃ f', f.step plan (.poll elapsed) = some f') ∨
    ∀ answer jitter elapsed, ∃ f', f.step plan (.answer answer jitter elapsed) = some f' := by
  cases sound with
  | fresh r =>
    refine .inr (.inl fun elapsed => ?_)
    cases plan with
    | refused | forward | loop => exact ⟨_, rfl⟩
  | forwarding r forwards =>
    rw [forwards]
    exact .inr (.inr fun _ _ _ => ⟨_, rfl⟩)
  | attempting loops below due reached =>
    rw [loops]
    exact .inr (.inr fun _ _ _ => ⟨_, rfl⟩)
  | sleeping loops below reached =>
    rw [loops]
    exact .inr (.inl fun _ => ⟨_, rfl⟩)
  | @ended _ _ result => exact .inl ⟨result, rfl⟩

end RetryFuture

theorem GrpcRetryClient.plan_resumptions (client : GrpcRetryClient υ) (payload : Payload μ)
    (call : EgressCall μ σ τ) :
    (client.plan payload call).resumptions ≤ 2 * client.config.maxAttempts.toNat + 1 := by
  have once := client.config.one_le_maxAttempts
  have forwarded : 2 ≤ 2 * client.config.maxAttempts.toNat + 1 := by omega
  cases call with
  | call path request =>
    unfold plan
    dsimp only
    split
    · exact forwarded
    · split
      · exact Nat.le_of_succ_le forwarded
      · exact Nat.le_refl _
  | callRaw request => exact Nat.le_refl _
  | callServerStream | callClientStream | callBidiStream => exact forwarded
  | callRawServerStream | callRawClientStream | callRawBidiStream => exact forwarded

/-- A call of a retry client that is resumed in any way, with anything happening in between.
Once it is done, its trace and its result are those of `make` on what it has read. Before
that, its trace begins that of `make` on any readings that go on from those made. It is
done after at most two resumptions for each attempt allowed and one more, and until then
it goes on with whatever it is given. -/
theorem resumed_call_is_make (client : GrpcRetryClient υ) (payload : Payload μ)
    (call : EgressCall μ σ τ) (r : Readings υ ρ) (resumes : List (Resume υ ρ))
    (f : RetryFuture υ (EgressCall μ σ τ) ρ)
    (ran : Runs.run (RetryFuture.step (client.plan payload call)) (.start r) resumes = some f) :
    (∀ result, f.phase = .ended result →
      client.makeOn payload call f.readings = ⟨f.events, result⟩) ∧
    (∀ r', f.Known r' → ∃ more, (client.makeOn payload call r').events = f.events ++ more) ∧
    resumes.length ≤ 2 * client.config.maxAttempts.toNat + 1 ∧
    ((∃ result, f.phase = .ended result) ∨
      (∀ elapsed, ∃ f', f.step (client.plan payload call) (.poll elapsed) = some f') ∨
      ∀ answer jitter elapsed,
        ∃ f', f.step (client.plan payload call) (.answer answer jitter elapsed) = some f') := by
  have sound := RetryFuture.run_sound (.fresh r) ran
  rw [Nat.zero_add] at sound
  refine ⟨fun result done => ?_, fun r' known => ?_, ?_, sound.resumable⟩
  · rw [client.makeOn_eq]
    exact sound.outcome done
  · rw [client.makeOn_eq]
    exact sound.events known
  · exact Nat.le_trans sound.few (client.plan_resumptions payload call)

namespace SecondAttempt

theorem three_ne_zero : (3 : UInt32) ≠ 0 := by decide

/-- A client that allows three attempts. -/
def client : GrpcRetryClient Unit := OneAttempt.client 3 three_ne_zero

/-- Nothing was read yet. -/
def unread : Readings Unit (List UInt8) := ⟨OneAttempt.stopped, fun _ => .ok []⟩

/-- A raw call with no timeout. -/
def call : EgressCall Unit Unit Unit := .callRaw ⟨"/test.Peer/Echo", [7], ⟨none, .empty⟩⟩

/-- The first attempt does not reach the peer, the second one is answered. -/
def resumes : List (Resume Unit (List UInt8)) :=
  [.poll .zero, .answer (.error (.transport "/test.Peer/Echo" .unavailable "")) () .zero,
    .poll .zero, .answer (.ok [8]) () .zero]

end SecondAttempt

open SecondAttempt in
/-- `resumed_call_is_make` for a call that is made good by its second attempt. -/
theorem resumed_call_is_make_second :
    ∃ f, Runs.run (RetryFuture.step (client.plan OneAttempt.empty call)) (.start unread) resumes =
      some f ∧ client.makeOn OneAttempt.empty call f.readings = ⟨f.events, some (.ok [8])⟩ :=
  ⟨_, rfl, (resumed_call_is_make client OneAttempt.empty call unread resumes _ rfl).1 _ rfl⟩

end GrpcEgress
