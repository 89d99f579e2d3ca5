import GrpcEgress.Retry.Loop

/-!
# Which attempts a retried call makes

The attempts and pauses of a run, read off its trace, and the exact condition
under which the loop stops.

1. `attempts_pauses`: the attempts are those of iterations `0, …, N - 1` and the
   pauses those of iterations `0, …, P - 1`, where `P` is `N` or one less;
2. `Ending.stops_iff`: the loop stops after attempt `k` iff `StopsAfter k`;
3. `result_of_ending`: under a classifier that retries only failures the result
   is the last attempt's own.
-/

namespace GrpcEgress

/-- The attempt an event is, with its timeout. -/
def RetryEvent.asAttempt {ε : Type} : RetryEvent ε → Option (Nat × Option Duration)
  | .attempt i timeout _ => some (i, timeout)
  | .pause _ _ => none

/-- The pause an event is, with its length. -/
def RetryEvent.asPause {ε : Type} : RetryEvent ε → Option (Nat × Duration)
  | .attempt _ _ _ => none
  | .pause i sleepFor => some (i, sleepFor)

/-- The attempts of a run, in order. -/
def RetryOutcome.attempts {ε ρ : Type} (r : RetryOutcome ε ρ) : List (Nat × Option Duration) :=
  r.events.filterMap RetryEvent.asAttempt

/-- The pauses of a run, in order. -/
def RetryOutcome.pauses {ε ρ : Type} (r : RetryOutcome ε ρ) : List (Nat × Duration) :=
  r.events.filterMap RetryEvent.asPause

/-- There is a limit, and it is over `nanos` nanoseconds after the start. -/
def SpentBy (limit : Option Duration) (nanos : Nat) : Prop :=
  ∃ budget, limit = some budget ∧ budget.nanos ≤ nanos

namespace RetryInput

variable {υ ε ρ : Type}

/-- What makes the loop stop after its attempt number `k`: the attempt succeeded
or failed for good, it was the last one allowed, the rate-limit track is used up,
the pause would not end before the timeout of the call, or that timeout is over when
the next attempt is due. -/
def StopsAfter (c : RetryInput υ ε ρ) (k : Nat) : Prop :=
  c.decision (k - 1) = .success ∨ c.decision (k - 1) = .terminal ∨
  k = c.config.maxAttempts.toNat ∨
  c.config.rateLimitMaxAttempts.toNat + 1 ≤ c.rateLimBefore k ∨
  SpentBy c.totalBudget ((c.elapsedAfter (k - 1)).nanos + (c.pauseAt (k - 1)).nanos) ∨
  SpentBy c.totalBudget (c.elapsedBefore k).nanos

/-- An iteration makes no attempt iff the timeout of the call is over at its top. -/
theorem not_due_iff {c : RetryInput υ ε ρ} {i : Nat} :
    ¬ c.due i ↔ SpentBy c.totalBudget (c.elapsedBefore i).nanos := by
  unfold due remaining SpentBy
  cases hb : c.totalBudget with
  | none => simp
  | some budget =>
    simp only [Option.some.injEq, exists_eq_left']
    cases hsub : budget.checkedSub (c.elapsedBefore i) with
    | none =>
      have hlt := Duration.checkedSub_eq_none.mp hsub
      exact ⟨fun _ => Nat.le_of_lt hlt, fun _ hdue => by cases hdue⟩
    | some left =>
      obtain ⟨hle, hnanos⟩ := Duration.checkedSub_eq_some.mp hsub
      have hleft : left.nanos = 0 ↔ budget.nanos ≤ (c.elapsedBefore i).nanos := by omega
      by_cases hzero : left.nanos = 0 <;> simp [hzero, ← hleft]

/-- A pause does not fit iff the timeout of the call is over at its end; a sum above
`Duration::MAX` is past every timeout. -/
theorem not_fits_iff {c : RetryInput υ ε ρ} {i : Nat} :
    ¬ c.fits i ↔ SpentBy c.totalBudget ((c.elapsedAfter i).nanos + (c.pauseAt i).nanos) := by
  unfold fits budgetAllowsSleep SpentBy
  cases hb : c.totalBudget with
  | none => simp
  | some budget =>
    simp only [Option.some.injEq, exists_eq_left']
    cases hadd : (c.elapsedAfter i).checkedAdd (c.pauseAt i) with
    | none =>
      have hover := Duration.checkedAdd_eq_none.mp hadd
      exact ⟨fun _ => Nat.le_trans budget.le_max (Nat.le_of_lt hover), fun _ hfits => by cases hfits⟩
    | some t =>
      rw [← Duration.checkedAdd_eq_some.mp hadd]
      simp only [decide_eq_true_eq, Nat.not_lt]

theorem eventsBefore_succ (c : RetryInput υ ε ρ) (n : Nat) :
    c.eventsBefore (n + 1) = c.eventsBefore n ++ [c.attemptAt n, .pause n (c.pauseAt n)] := by
  rw [eventsBefore, RangeLoop.between_concat]
  rfl

theorem eventsBefore_attempts (c : RetryInput υ ε ρ) (n : Nat) :
    (c.eventsBefore n).filterMap RetryEvent.asAttempt =
      (List.range n).map fun i => (i, c.timeoutAt i) := by
  induction n with
  | zero => rfl
  | succ n ih =>
    rw [eventsBefore_succ, List.filterMap_append, ih, List.range_succ, List.map_append]
    rfl

theorem eventsBefore_pauses (c : RetryInput υ ε ρ) (n : Nat) :
    (c.eventsBefore n).filterMap RetryEvent.asPause =
      (List.range n).map fun i => (i, c.pauseAt i) := by
  induction n with
  | zero => rfl
  | succ n ih =>
    rw [eventsBefore_succ, List.filterMap_append, ih, List.range_succ, List.map_append]
    rfl

theorem attempts_full (c : RetryInput υ ε ρ) (n : Nat) (result : Option (Except CallError ρ)) :
    (⟨c.eventsBefore n, result⟩ : RetryOutcome ε ρ).attempts.length = n := by
  rw [RetryOutcome.attempts, eventsBefore_attempts, List.length_map, List.length_range]

theorem attempts_stopped (c : RetryInput υ ε ρ) (n : Nat)
    (result : Option (Except CallError ρ)) :
    (⟨c.eventsBefore n ++ [c.attemptAt n], result⟩ : RetryOutcome ε ρ).attempts.length = n + 1 := by
  rw [RetryOutcome.attempts, List.filterMap_append, List.length_append, eventsBefore_attempts,
    List.length_map, List.length_range]
  rfl

theorem pauses_full (c : RetryInput υ ε ρ) (n : Nat) (result : Option (Except CallError ρ)) :
    (⟨c.eventsBefore n, result⟩ : RetryOutcome ε ρ).pauses =
      (List.range n).map fun i => (i, c.pauseAt i) :=
  c.eventsBefore_pauses n

theorem pauses_stopped (c : RetryInput υ ε ρ) (n : Nat) (result : Option (Except CallError ρ)) :
    (⟨c.eventsBefore n ++ [c.attemptAt n], result⟩ : RetryOutcome ε ρ).pauses =
      (List.range n).map fun i => (i, c.pauseAt i) := by
  rw [RetryOutcome.pauses, List.filterMap_append, eventsBefore_pauses]
  exact List.append_nil _

/-- How many attempts and pauses a run has. -/
theorem attempts_pauses (c : RetryInput υ ε ρ) : ∃ N P, (P = N ∨ N = P + 1) ∧
    c.runWithRetry.attempts = (List.range N).map (fun i => (i, c.timeoutAt i)) ∧
    c.runWithRetry.pauses = (List.range P).map (fun i => (i, c.pauseAt i)) := by
  have h := c.runWithRetry_ending
  generalize c.runWithRetry = r at h
  cases h with
  | exhausted _ =>
    exact ⟨_, _, .inl rfl, c.eventsBefore_attempts _, c.pauses_full _ _⟩
  | spent _ _ _ =>
    exact ⟨_, _, .inl rfl, c.eventsBefore_attempts _, c.pauses_full _ _⟩
  | @stopped n _ _ _ _ =>
    refine ⟨n + 1, n, .inr rfl, ?_, c.pauses_stopped n _⟩
    rw [RetryOutcome.attempts, List.filterMap_append, eventsBefore_attempts, List.range_succ,
      List.map_append]
    rfl

/-- A full iteration was classified for a retry, and its pause fits. -/
theorem retries_of_goesOn {c : RetryInput υ ε ρ} {i : Nat} (h : c.goesOn i) :
    (c.decision i).retries = true ∧ c.fits i := by
  unfold goesOn at h
  cases hd : c.decision i with
  | success => rw [hd] at h; exact h.elim
  | terminal => rw [hd] at h; exact h.elim
  | retry => rw [hd] at h; exact ⟨rfl, h.2⟩
  | retryRateLimit => rw [hd] at h; exact ⟨rfl, h.2⟩

/-- Full iterations never use up the rate-limit track. -/
theorem rateLimBefore_le {c : RetryInput υ ε ρ} {n : Nat} (h : ∀ j < n, c.stays j) :
    c.rateLimBefore n ≤ c.config.rateLimitMaxAttempts.toNat := by
  induction n with
  | zero => exact Nat.zero_le _
  | succ n ih =>
    have hn := ih fun j hj => h j (Nat.lt_succ_of_lt hj)
    have hgo := (h n (Nat.lt_succ_self n)).2
    rw [rateLimBefore_succ]
    unfold goesOn at hgo
    cases hd : c.decision n with
    | success => rw [hd] at hgo; exact hgo.elim
    | terminal => rw [hd] at hgo; exact hgo.elim
    | retry => simpa using hn
    | retryRateLimit => rw [hd] at hgo; simpa using hgo.1

/-- The loop does not stop after an attempt that more attempts followed. -/
theorem not_stopsAfter {c : RetryInput υ ε ρ} {k : Nat} (hk : 1 ≤ k)
    (hmax : k < c.config.maxAttempts.toNat) (hstay : ∀ j < k, c.stays j) (hdue : c.due k) :
    ¬ c.StopsAfter k := by
  obtain ⟨hr, hfits⟩ := retries_of_goesOn (hstay (k - 1) (by omega)).2
  have hrl := rateLimBefore_le hstay
  rintro (h | h | h | h | h | h)
  · rw [h] at hr; cases hr
  · rw [h] at hr; cases hr
  · exact absurd h (Nat.ne_of_lt hmax)
  · exact absurd hrl (by omega)
  · exact not_fits_iff.mpr h hfits
  · exact not_due_iff.mpr h hdue

/-- An attempt after which the loop does not go on is one it stops after. -/
theorem stopsAfter_of_not_goesOn {c : RetryInput υ ε ρ} {n : Nat}
    (hn : n < c.config.maxAttempts.toNat) (h : ¬ c.goesOn n) : c.StopsAfter (n + 1) := by
  have hle := c.counters_le n
  unfold StopsAfter
  rw [Nat.add_sub_cancel]
  unfold goesOn at h
  cases hd : c.decision n with
  | success => exact .inl rfl
  | terminal => exact .inr (.inl rfl)
  | retry =>
    -- Its own counter has come to the limit, or the pause does not fit.
    rw [hd] at h
    by_cases hlast : c.standardBefore n + 1 < c.config.maxAttempts.toNat
    · exact .inr (.inr (.inr (.inr (.inl (not_fits_iff.mp fun hf => h ⟨hlast, hf⟩)))))
    · exact .inr (.inr (.inl (by omega)))
  | retryRateLimit =>
    rw [hd] at h
    by_cases hlast : c.rateLimBefore n + 1 ≤ c.config.rateLimitMaxAttempts.toNat
    · exact .inr (.inr (.inr (.inr (.inl (not_fits_iff.mp fun hf => h ⟨hlast, hf⟩)))))
    · refine .inr (.inr (.inr (.inl ?_)))
      rw [rateLimBefore_succ, hd]
      simp only [if_true]
      omega

/-- The loop stops after attempt `k` iff one of the six reasons to stop holds. -/
theorem Ending.stops_iff {c : RetryInput υ ε ρ} {r : RetryOutcome ε ρ} (h : c.Ending r)
    {k : Nat} (hk : 1 ≤ k) (hle : k ≤ r.attempts.length) :
    r.attempts.length = k ↔ c.StopsAfter k := by
  cases h with
  | exhausted hstay =>
    rw [attempts_full] at hle ⊢
    refine ⟨fun he => .inr (.inr (.inl he.symm)), fun hs => Decidable.byContradiction fun hne => ?_⟩
    have hlt : k < c.config.maxAttempts.toNat := by omega
    exact not_stopsAfter hk hlt (fun j hj => hstay j (by omega)) (hstay k hlt).1 hs
  | @spent n hn hstay hdue =>
    rw [attempts_full] at hle ⊢
    refine ⟨fun he => .inr (.inr (.inr (.inr (.inr (not_due_iff.mp (he ▸ hdue)))))),
      fun hs => Decidable.byContradiction fun hne => ?_⟩
    have hlt : k < n := by omega
    exact not_stopsAfter hk (by omega) (fun j hj => hstay j (by omega)) (hstay k hlt).1 hs
  | @stopped n hn hstay hdue hgo =>
    rw [attempts_stopped] at hle ⊢
    refine ⟨fun he => he ▸ stopsAfter_of_not_goesOn hn hgo,
      fun hs => Decidable.byContradiction fun hne => ?_⟩
    have hduek : c.due k := by
      by_cases hkn : k = n
      · exact hkn ▸ hdue
      · exact (hstay k (by omega)).1
    exact not_stopsAfter hk (by omega) (fun j hj => hstay j (by omega)) hduek hs

/-- A run makes no attempt iff the budget is spent before the first one. -/
theorem Ending.no_attempt_iff {c : RetryInput υ ε ρ} {r : RetryOutcome ε ρ} (h : c.Ending r) :
    r.attempts.length = 0 ↔ ¬ c.due 0 := by
  have hmax := c.config.one_le_maxAttempts
  cases h with
  | exhausted hstay =>
    rw [attempts_full]
    exact ⟨fun he => by omega, fun hd => absurd (hstay 0 (by omega)).1 hd⟩
  | @spent n hn hstay hdue =>
    rw [attempts_full]
    refine ⟨fun he => he ▸ hdue, fun hd => Decidable.byContradiction fun hne => ?_⟩
    exact hd (hstay 0 (by omega)).1
  | @stopped n hn hstay hdue hgo =>
    rw [attempts_stopped]
    refine ⟨fun he => by omega, fun hd => ?_⟩
    by_cases hn0 : n = 0
    · exact absurd (hn0 ▸ hdue) hd
    · exact absurd (hstay 0 (by omega)).1 hd

/-! ## The answer of a run -/

/-- An attempt that is retried failed, under a classifier that retries only
failures, so giving up answers with that attempt's own failure. -/
theorem giveUp_answer {c : RetryInput υ ε ρ} (hc : c.classifier.RetriesOnlyFailures) {i : Nat}
    (h : (c.decision i).retries = true) : c.giveUp (errOf (c.answer i)) = c.answer i := by
  cases ha : c.answer i with
  | error e => rfl
  | ok response =>
    have hno := hc ()
    rw [decision, ha] at h
    exact absurd h (by rw [show forget (Except.ok response) = .ok () from rfl, hno]; decide)

/-- The answer of a run: the last attempt's own, or `DeadlineExceeded` when there
was no attempt. -/
theorem Ending.result {c : RetryInput υ ε ρ} (hc : c.classifier.RetriesOnlyFailures)
    {r : RetryOutcome ε ρ} (h : c.Ending r) :
    r.result = some (if r.attempts.length = 0 then .error (deadlineExhausted c.path)
      else c.answer (r.attempts.length - 1)) := by
  have hmax := c.config.one_le_maxAttempts
  cases h with
  | exhausted hstay =>
    -- The last pass was a full one, so its attempt failed and giving up answers with that.
    obtain ⟨m, hm⟩ : ∃ m, c.config.maxAttempts.toNat = m + 1 :=
      ⟨c.config.maxAttempts.toNat - 1, by omega⟩
    have hgo := (hstay m (by omega)).2
    rw [attempts_full]
    simp only [hm, errorBefore, Nat.succ_ne_zero, if_false, Nat.add_sub_cancel]
    rw [giveUp_answer hc (retries_of_goesOn hgo).1]
  | @spent n hn hstay hdue =>
    rw [attempts_full]
    cases n with
    | zero => rfl
    | succ m =>
      -- The failure of the last attempt is what the loop breaks off with.
      have hret := (retries_of_goesOn (hstay m (Nat.lt_succ_self m)).2).1
      have hans := giveUp_answer hc hret
      simp only [errorBefore, Nat.succ_ne_zero, if_false, Nat.add_sub_cancel]
      cases ha : c.answer m with
      | error e => rfl
      | ok response => rw [ha] at hans; cases hans
  | @stopped n hn hstay hdue hgo =>
    rw [attempts_stopped]
    simp only [Nat.succ_ne_zero, if_false, Nat.add_sub_cancel, finalAnswer]
    split
    · next hret => rw [giveUp_answer hc hret]
    · rfl

/-- The run with the standard classifier in place of the one it was given. -/
def withStdClassifier (c : RetryInput υ ε ρ) : RetryInput υ ε ρ :=
  { c with classifier := stdRetryClassifier }

/-- The standard retry loop makes the attempts of iterations `0, …, N - 1`, each
once and in order. It stops after attempt `k` iff `StopsAfter k`, and makes none
iff the timeout of the call is over at the first clock reading. Its answer is the last
attempt's own, or that the deadline is exceeded, so the fallback failure is returned
only where an attempt itself answered with it, and there always is an answer: no
counter overflows. -/
theorem standard_attempts_exact (input : RetryInput υ ε ρ) :
    let c := input.withStdClassifier
    let r := c.runWithRetry
    let N := r.attempts.length
    r.attempts = (List.range N).map (fun i => (i, c.timeoutAt i)) ∧
    (∀ k, 1 ≤ k → k ≤ N → (N = k ↔ c.StopsAfter k)) ∧
    (N = 0 ↔ SpentBy c.totalBudget (c.elapsedBefore 0).nanos) ∧
    r.result = some (if N = 0 then
        .error (.transport c.path .deadlineExceeded
          "deadline exhausted before retry could be issued")
      else c.answer (N - 1)) ∧
    (r.result = some (.error (.transport c.path .internal
        "grpc-retry: exhausted attempts with no recorded error")) →
      N ≠ 0 ∧ c.answer (N - 1) = .error (.transport c.path .internal
        "grpc-retry: exhausted attempts with no recorded error")) := by
  intro c r N
  have hend : c.Ending r := c.runWithRetry_ending
  have hresult := hend.result stdClassify_ok
  refine ⟨?_, fun k hk hle => hend.stops_iff hk hle, hend.no_attempt_iff.trans not_due_iff,
    hresult, fun hex => ?_⟩
  · obtain ⟨M, P, _, hatt, _⟩ := c.attempts_pauses
    have hN : N = M := by
      show c.runWithRetry.attempts.length = M
      rw [hatt, List.length_map, List.length_range]
    rw [hN]
    exact hatt
  · rw [hresult, Option.some.injEq] at hex
    by_cases hN : N = 0
    · rw [if_pos hN] at hex
      cases hex
    · rw [if_neg hN] at hex
      exact ⟨hN, hex⟩

end RetryInput

end GrpcEgress
