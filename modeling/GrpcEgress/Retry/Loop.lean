import GrpcEgress.Retry.Policy
import GrpcEgress.Retry.Classifier
import GrpcEgress.Lib.RangeLoop

/-!
# The retry loop

`GrpcRetryClient::run_with_retry`. One run reads a policy, a classifier, the
shared backoff scheduler, a clock and the attempts themselves; `RetryInput` holds
all of it. What differs from one iteration to the next is indexed by the
iteration: the two clock readings, the jitter draw and the behaviour of the
attempt, which is run at most once in each iteration.

The trace of a run is a list of `RetryEvent`: each attempt with the timeout it
was given and what it sent, and each pause. The two counters are 32-bit: an
increment that does not fit ends the run with no result.

The second half is the course of a run in closed form. `stateAt n` is the state
at the top of iteration `n` whenever the loop gets there, and
`runWithRetry_ending` says the three ways a run ends.
-/

namespace GrpcEgress

/-- `BackoffScheduler` of the shared retry crate: the length of a pause from the
policy, the number of earlier pauses of the track, the hint of the peer and a
jitter draw. -/
structure BackoffScheduler (υ : Type) where
  nextBackoff : GrpcRetryConfig → Nat → υ → Duration
  rateLimitBackoff : GrpcRetryConfig → Nat → Option Duration → υ → Duration

/-- What one run of the attempt closure does: what it hands to the wrapped client,
and its result. -/
structure Attempt (ε ρ : Type) where
  sent : List ε
  result : Except CallError ρ

/-- Everything one run of `run_with_retry` reads. -/
structure RetryInput (υ ε ρ : Type) where
  config : GrpcRetryConfig
  classifier : RetryClassifier
  scheduler : BackoffScheduler υ
  path : String
  totalBudget : Option Duration
  /-- `started.elapsed()` at the top of iteration `i`. -/
  elapsedBefore : Nat → Duration
  /-- `started.elapsed()` in `budget_allows_sleep` of iteration `i`. -/
  elapsedAfter : Nat → Duration
  /-- `rng.next_unit()` in iteration `i`. -/
  jitter : Nat → υ
  /-- The attempt of iteration `i`, given the timeout it may take. -/
  attempt : Nat → Option Duration → Attempt ε ρ

/-- One step of a run that the outside can see. -/
inductive RetryEvent (ε : Type) where
  | attempt (index : Nat) (timeout : Option Duration) (sent : List ε)
  | pause (index : Nat) (sleepFor : Duration)
deriving DecidableEq

/-- The variables of the loop. -/
structure RetryState where
  standardAttempt : Nat
  rateLimAttempt : Nat
  lastError : Option CallError

/-- How an iteration leaves the loop: `return`, `break`, or a counter that does
not fit its 32 bits. -/
inductive LoopExit (ρ : Type) where
  | returned (result : Except CallError ρ)
  | broke (lastError : Option CallError)
  | overflowed

/-- A run: its trace, and its result unless a counter overflowed. -/
structure RetryOutcome (ε ρ : Type) where
  events : List (RetryEvent ε)
  result : Option (Except CallError ρ)

/-- `x + 1` on a `u32`. -/
def succU32 (n : Nat) : Option Nat :=
  if n + 1 < UInt32.size then some (n + 1) else none

/-- The failure of a call whose budget is spent before its first attempt. -/
def deadlineExhausted (path : String) : CallError :=
  .transport path .deadlineExceeded "deadline exhausted before retry could be issued"

/-- The failure of a loop that ends with no failure recorded. -/
def exhaustedAttempts (path : String) : CallError :=
  .transport path .internal "grpc-retry: exhausted attempts with no recorded error"

namespace RetryInput

variable {υ ε ρ : Type}

/-- The timeout an attempt of iteration `i` may take: `none` when the budget is
spent, `some none` when the call has no timeout. -/
def remaining (c : RetryInput υ ε ρ) (i : Nat) : Option (Option Duration) :=
  match c.totalBudget with
  | none => some none
  | some budget =>
    match budget.checkedSub (c.elapsedBefore i) with
    | some left => if left.isZero then none else some (some left)
    | none => none

/-- `budget_allows_sleep`. -/
def budgetAllowsSleep (c : RetryInput υ ε ρ) (sleepFor : Duration) (i : Nat) : Bool :=
  match c.totalBudget with
  | none => true
  | some budget =>
    match (c.elapsedAfter i).checkedAdd sleepFor with
    | some t => decide (t.nanos < budget.nanos)
    | none => false

/-- One iteration of the loop. -/
def pass (c : RetryInput υ ε ρ) (i : Nat) (st : RetryState) :
    RangeLoop.Pass (RetryEvent ε) RetryState (LoopExit ρ) :=
  match c.remaining i with
  | none => .exit [] (.returned (.error (st.lastError.getD (deadlineExhausted c.path))))
  | some timeout =>
    let made := c.attempt i timeout
    let sent := RetryEvent.attempt i timeout made.sent
    match c.classifier.classify (forget made.result) with
    | .success => .exit [sent] (.returned made.result)
    | .terminal => .exit [sent] (.returned made.result)
    | .retry =>
      let lastError := errOf made.result
      match succU32 st.standardAttempt with
      | none => .exit [sent] .overflowed
      | some nextAttempt =>
        if c.config.maxAttempts.toNat ≤ nextAttempt then .exit [sent] (.broke lastError)
        else
          let sleepFor := c.scheduler.nextBackoff c.config st.standardAttempt (c.jitter i)
          if c.budgetAllowsSleep sleepFor i then
            .again [sent, .pause i sleepFor] ⟨nextAttempt, st.rateLimAttempt, lastError⟩
          else .exit [sent] (.broke lastError)
    | .retryRateLimit =>
      let lastError := errOf made.result
      match succU32 st.rateLimAttempt with
      | none => .exit [sent] .overflowed
      | some nextRl =>
        if c.config.rateLimitMaxAttempts.toNat < nextRl then .exit [sent] (.broke lastError)
        else
          let hint := lastError.bind c.classifier.readRetryAfter
          let sleepFor :=
            c.scheduler.rateLimitBackoff c.config st.rateLimAttempt hint (c.jitter i)
          if c.budgetAllowsSleep sleepFor i then
            .again [sent, .pause i sleepFor] ⟨st.standardAttempt, nextRl, lastError⟩
          else .exit [sent] (.broke lastError)

/-- What the loop answers when it gives up: the last failure it recorded. -/
def giveUp (c : RetryInput υ ε ρ) (lastError : Option CallError) : Except CallError ρ :=
  .error (lastError.getD (exhaustedAttempts c.path))

/-- `run_with_retry`. -/
def runWithRetry (c : RetryInput υ ε ρ) : RetryOutcome ε ρ :=
  let r := RangeLoop.run c.pass c.config.maxAttempts.toNat 0 ⟨0, 0, none⟩
  ⟨r.1, match r.2 with
    | .inl st => some (c.giveUp st.lastError)
    | .inr (.returned result) => some result
    | .inr (.broke lastError) => some (c.giveUp lastError)
    | .inr .overflowed => none⟩

/-! ## The course of a run -/

/-- The timeout of the attempt of iteration `i`, if that iteration makes one. -/
def timeoutAt (c : RetryInput υ ε ρ) (i : Nat) : Option Duration := (c.remaining i).getD none

/-- The budget is not spent at the top of iteration `i`. -/
def due (c : RetryInput υ ε ρ) (i : Nat) : Prop := (c.remaining i).isSome

/-- The result of the attempt of iteration `i`. -/
def answer (c : RetryInput υ ε ρ) (i : Nat) : Except CallError ρ :=
  (c.attempt i (c.timeoutAt i)).result

/-- Its classification. -/
def decision (c : RetryInput υ ε ρ) (i : Nat) : RetryDecision :=
  c.classifier.classify (forget (c.answer i))

/-- How many of the first `n` outcomes were `Retry`. -/
def standardBefore (c : RetryInput υ ε ρ) (n : Nat) : Nat :=
  (List.range n).countP fun i => c.decision i == .retry

/-- How many of the first `n` outcomes were `RetryRateLimit`. -/
def rateLimBefore (c : RetryInput υ ε ρ) (n : Nat) : Nat :=
  (List.range n).countP fun i => c.decision i == .retryRateLimit

/-- The failure of the attempt before iteration `n`. -/
def errorBefore (c : RetryInput υ ε ρ) : Nat → Option CallError
  | 0 => none
  | n + 1 => errOf (c.answer n)

/-- The state at the top of iteration `n`. -/
def stateAt (c : RetryInput υ ε ρ) (n : Nat) : RetryState :=
  ⟨c.standardBefore n, c.rateLimBefore n, c.errorBefore n⟩

/-- The pause that follows the attempt of iteration `i` when one does. -/
def pauseAt (c : RetryInput υ ε ρ) (i : Nat) : Duration :=
  match c.decision i with
  | .retryRateLimit =>
    c.scheduler.rateLimitBackoff c.config (c.rateLimBefore i)
      ((errOf (c.answer i)).bind c.classifier.readRetryAfter) (c.jitter i)
  | _ => c.scheduler.nextBackoff c.config (c.standardBefore i) (c.jitter i)

/-- That pause fits in the budget. -/
def fits (c : RetryInput υ ε ρ) (i : Nat) : Prop := c.budgetAllowsSleep (c.pauseAt i) i = true

/-- After the attempt of iteration `i` the loop pauses and goes on. -/
def goesOn (c : RetryInput υ ε ρ) (i : Nat) : Prop :=
  match c.decision i with
  | .retry => c.standardBefore i + 1 < c.config.maxAttempts.toNat ∧ c.fits i
  | .retryRateLimit => c.rateLimBefore i + 1 ≤ c.config.rateLimitMaxAttempts.toNat ∧ c.fits i
  | _ => False

/-- Iteration `i` makes its attempt, pauses and goes on. -/
def stays (c : RetryInput υ ε ρ) (i : Nat) : Prop := c.due i ∧ c.goesOn i

/-- The attempt of iteration `i` in the trace. -/
def attemptAt (c : RetryInput υ ε ρ) (i : Nat) : RetryEvent ε :=
  .attempt i (c.timeoutAt i) (c.attempt i (c.timeoutAt i)).sent

/-- What a full iteration adds to the trace. -/
def eventsAt (c : RetryInput υ ε ρ) (i : Nat) : List (RetryEvent ε) :=
  [c.attemptAt i, .pause i (c.pauseAt i)]

/-- The trace of the first `n` iterations when all of them are full. -/
def eventsBefore (c : RetryInput υ ε ρ) (n : Nat) : List (RetryEvent ε) :=
  RangeLoop.between c.eventsAt 0 n

/-- What the loop answers when the attempt of iteration `i` is its last. -/
def finalAnswer (c : RetryInput υ ε ρ) (i : Nat) : Except CallError ρ :=
  if (c.decision i).retries then c.giveUp (errOf (c.answer i)) else c.answer i

/-- The three ways a run ends: the range of attempts is exhausted, the budget is
spent at the top of an iteration, or an attempt is the last one. -/
inductive Ending (c : RetryInput υ ε ρ) : RetryOutcome ε ρ → Prop
  | exhausted : (∀ j < c.config.maxAttempts.toNat, c.stays j) →
      Ending c ⟨c.eventsBefore c.config.maxAttempts.toNat,
        some (c.giveUp (c.errorBefore c.config.maxAttempts.toNat))⟩
  | spent {n : Nat} : n < c.config.maxAttempts.toNat → (∀ j < n, c.stays j) → ¬ c.due n →
      Ending c ⟨c.eventsBefore n,
        some (.error ((c.errorBefore n).getD (deadlineExhausted c.path)))⟩
  | stopped {n : Nat} : n < c.config.maxAttempts.toNat → (∀ j < n, c.stays j) → c.due n →
      ¬ c.goesOn n → Ending c ⟨c.eventsBefore n ++ [c.attemptAt n], some (c.finalAnswer n)⟩

/-! ## Counting outcomes -/

theorem standardBefore_succ (c : RetryInput υ ε ρ) (n : Nat) :
    c.standardBefore (n + 1) = c.standardBefore n + if c.decision n = .retry then 1 else 0 := by
  simp [standardBefore, List.range_succ, List.countP_append, List.countP_cons]

theorem rateLimBefore_succ (c : RetryInput υ ε ρ) (n : Nat) :
    c.rateLimBefore (n + 1) =
      c.rateLimBefore n + if c.decision n = .retryRateLimit then 1 else 0 := by
  simp [rateLimBefore, List.range_succ, List.countP_append, List.countP_cons]

@[simp]
theorem standardBefore_zero (c : RetryInput υ ε ρ) : c.standardBefore 0 = 0 := rfl

@[simp]
theorem rateLimBefore_zero (c : RetryInput υ ε ρ) : c.rateLimBefore 0 = 0 := rfl

/-- Each outcome moves at most one of the two counters. -/
theorem counters_le (c : RetryInput υ ε ρ) (n : Nat) :
    c.standardBefore n + c.rateLimBefore n ≤ n := by
  induction n with
  | zero => simp
  | succ n ih =>
    rw [standardBefore_succ, rateLimBefore_succ]
    cases c.decision n <;> simp <;> omega

theorem succU32_of_lt {n m : Nat} (h : n < m) (hm : m < UInt32.size) :
    succU32 n = some (n + 1) := by
  have hn : n + 1 < UInt32.size := Nat.lt_of_le_of_lt h hm
  exact if_pos hn

/-- Neither counter overflows: both stay below the index of the iteration, which
stays below `max_attempts`. -/
theorem succU32_counters (c : RetryInput υ ε ρ) {i : Nat} (hi : i < c.config.maxAttempts.toNat) :
    succU32 (c.standardBefore i) = some (c.standardBefore i + 1) ∧
      succU32 (c.rateLimBefore i) = some (c.rateLimBefore i + 1) := by
  have hle := c.counters_le i
  have hmax := c.config.maxAttempts.toNat_lt_size
  have hstd : c.standardBefore i < c.config.maxAttempts.toNat := by omega
  have hrl : c.rateLimBefore i < c.config.maxAttempts.toNat := by omega
  exact ⟨succU32_of_lt hstd hmax, succU32_of_lt hrl hmax⟩

/-! ## One iteration, from the state it starts in -/

theorem remaining_of_due {c : RetryInput υ ε ρ} {i : Nat} (h : c.due i) :
    c.remaining i = some (c.timeoutAt i) := by
  obtain ⟨t, ht⟩ := Option.isSome_iff_exists.mp h
  simp [timeoutAt, ht]

theorem remaining_of_not_due {c : RetryInput υ ε ρ} {i : Nat} (h : ¬ c.due i) :
    c.remaining i = none := by
  simpa [due] using h

theorem classify_answer (c : RetryInput υ ε ρ) (i : Nat) :
    c.classifier.classify (forget (c.attempt i (c.timeoutAt i)).result) = c.decision i := rfl

/-- An iteration that finds the budget spent leaves with the last failure. -/
theorem pass_spent {c : RetryInput υ ε ρ} {i : Nat} (h : ¬ c.due i) :
    c.pass i (c.stateAt i) =
      .exit [] (.returned (.error ((c.errorBefore i).getD (deadlineExhausted c.path)))) := by
  simp only [pass, remaining_of_not_due h, stateAt]

/-- A full iteration moves the counter of its track and records the failure. -/
theorem pass_again {c : RetryInput υ ε ρ} {i : Nat} (hi : i < c.config.maxAttempts.toNat)
    (h : c.stays i) : c.pass i (c.stateAt i) = .again (c.eventsAt i) (c.stateAt (i + 1)) := by
  obtain ⟨hdue, hgo⟩ := h
  obtain ⟨hstd, hrl⟩ := c.succU32_counters hi
  simp only [pass, remaining_of_due hdue, classify_answer, stateAt, hstd, hrl, eventsAt, attemptAt,
    pauseAt, errorBefore, standardBefore_succ, rateLimBefore_succ]
  unfold goesOn at hgo
  cases hd : c.decision i with
  | success => simp [hd] at hgo
  | terminal => simp [hd] at hgo
  | retry =>
    simp only [hd, fits, pauseAt] at hgo ⊢
    simp only [Nat.not_le.mpr hgo.1, hgo.2, if_true, if_false, reduceCtorEq, Nat.add_zero]
    rfl
  | retryRateLimit =>
    simp only [hd, fits, pauseAt] at hgo ⊢
    simp only [Nat.not_lt.mpr hgo.1, answer] at hgo ⊢
    simp only [hgo.2, if_true, if_false, reduceCtorEq, Nat.add_zero]

/-- An iteration whose attempt is the last one leaves with that attempt's result
or its failure. -/
theorem pass_stopped {c : RetryInput υ ε ρ} {i : Nat} (hi : i < c.config.maxAttempts.toNat)
    (hdue : c.due i) (hgo : ¬ c.goesOn i) :
    c.pass i (c.stateAt i) = .exit [c.attemptAt i]
      (if (c.decision i).retries then .broke (errOf (c.answer i)) else .returned (c.answer i)) := by
  obtain ⟨hstd, hrl⟩ := c.succU32_counters hi
  simp only [pass, remaining_of_due hdue, classify_answer, stateAt, hstd, hrl, attemptAt]
  unfold goesOn at hgo
  cases hd : c.decision i with
  | success => simp [RetryDecision.retries, answer]
  | terminal => simp [RetryDecision.retries, answer]
  | retry =>
    simp only [hd, fits, pauseAt, not_and] at hgo
    simp only [RetryDecision.retries, if_true]
    split
    · rfl
    · next hlt => simp only [hgo (Nat.not_le.mp hlt), Bool.false_eq_true, if_false]; rfl
  | retryRateLimit =>
    simp only [hd, fits, pauseAt, not_and] at hgo
    simp only [RetryDecision.retries, if_true]
    split
    · rfl
    · next hlt =>
      simp only [answer] at hgo
      simp only [hgo (Nat.not_lt.mp hlt), Bool.false_eq_true, if_false]
      rfl

theorem course (c : RetryInput υ ε ρ) :
    RangeLoop.Course c.pass c.stateAt c.eventsAt c.stays c.config.maxAttempts.toNat where
  again := fun _ hi hs => pass_again hi hs
  leaves := by
    intro i hi hs
    by_cases hdue : c.due i
    · exact ⟨_, _, pass_stopped hi hdue fun hgo => hs ⟨hdue, hgo⟩⟩
    · exact ⟨_, _, pass_spent hdue⟩

/-! ## The whole run -/

/-- Every run ends in one of the three ways, and no counter overflows. -/
theorem runWithRetry_ending (c : RetryInput υ ε ρ) : c.Ending c.runWithRetry := by
  obtain ⟨n, hn, hstay, ⟨rfl, hrun⟩ | ⟨hlt, hns, evs, b, hexit, hrun⟩⟩ :=
    RangeLoop.run_course c.course
  · have hstart : c.stateAt 0 = ⟨0, 0, none⟩ := rfl
    simp only [hstart] at hrun
    simp only [runWithRetry, hrun]
    exact .exhausted hstay
  · have hstart : c.stateAt 0 = ⟨0, 0, none⟩ := rfl
    simp only [hstart] at hrun
    by_cases hdue : c.due n
    · have hgo : ¬ c.goesOn n := fun h => hns ⟨hdue, h⟩
      rw [pass_stopped hlt hdue hgo] at hexit
      cases hexit
      have hend := Ending.stopped hlt hstay hdue hgo
      simp only [runWithRetry, hrun]
      unfold finalAnswer at hend
      by_cases hr : (c.decision n).retries = true
      · simpa only [hr, if_true, eventsBefore] using hend
      · simpa only [hr, if_false, Bool.false_eq_true, eventsBefore] using hend
    · rw [pass_spent hdue] at hexit
      cases hexit
      simp only [runWithRetry, hrun, List.append_nil]
      exact .spent hlt hstay hdue

end RetryInput

end GrpcEgress
