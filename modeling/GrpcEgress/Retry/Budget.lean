import GrpcEgress.Retry.Pauses

/-!
# The timeout of a call is a total budget

Every attempt of a call with a timeout is given what is left of it at the clock
reading before the attempt, and a pause is started only when it ends before the
timeout. Both are facts about one iteration (`attempt_in_budget`,
`pause_in_budget`); they hold of whatever the clock, the scheduler and the peer
do.

`Timed` adds what a clock does that moves only during attempts and pauses, with
attempts that keep to the timeout they are given. Under it the reading at the top
of an iteration is the time the run has spent (`spent_eventsBefore`), so the whole
run ends within the timeout.
-/

namespace GrpcEgress

namespace RetryInput

variable {υ ε ρ : Type}

/-- The clock never goes back between two readings of a run. -/
def ClockMonotone (c : RetryInput υ ε ρ) : Prop :=
  ∀ i, (c.elapsedBefore i).nanos ≤ (c.elapsedAfter i).nanos ∧
    (c.elapsedAfter i).nanos ≤ (c.elapsedBefore (i + 1)).nanos

/-- The time a trace takes when the attempt of iteration `i` takes `took i` and a
pause takes what it was asked to. -/
def spent (took : Nat → Nat) : List (RetryEvent ε) → Nat
  | [] => 0
  | .attempt i _ _ :: rest => took i + spent took rest
  | .pause _ sleepFor :: rest => sleepFor.nanos + spent took rest

/-- The clock advances only during the attempts and pauses of the run, each
attempt ends within the timeout it was given, and each pause lasts what it was
asked to. -/
structure Timed (c : RetryInput υ ε ρ) (took : Nat → Nat) : Prop where
  start : (c.elapsedBefore 0).nanos = 0
  attempt : ∀ i timeout, (i, timeout) ∈ c.runWithRetry.attempts →
    (c.elapsedAfter i).nanos = (c.elapsedBefore i).nanos + took i
  pause : ∀ i sleepFor, (i, sleepFor) ∈ c.runWithRetry.pauses →
    (c.elapsedBefore (i + 1)).nanos = (c.elapsedAfter i).nanos + sleepFor.nanos
  within : ∀ i left, (i, some left) ∈ c.runWithRetry.attempts → took i ≤ left.nanos

theorem spent_append (took : Nat → Nat) (xs ys : List (RetryEvent ε)) :
    spent took (xs ++ ys) = spent took xs + spent took ys := by
  induction xs with
  | nil => simp [spent]
  | cons x xs ih => cases x <;> simp only [List.cons_append, spent, ih, Nat.add_assoc]

/-! ## One iteration -/

/-- An attempt that is due in a call with a timeout is given exactly what is left
of it, which is positive. -/
theorem attempt_in_budget {c : RetryInput υ ε ρ} {budget : Duration}
    (hb : c.totalBudget = some budget) {i : Nat} (h : c.due i) :
    (c.elapsedBefore i).nanos < budget.nanos ∧ ∃ left, c.timeoutAt i = some left ∧
      left.nanos = budget.nanos - (c.elapsedBefore i).nanos := by
  refine ⟨Nat.not_le.mp fun hle => not_due_iff.mpr ⟨budget, hb, hle⟩ h, ?_⟩
  have hrem := remaining_of_due h
  simp only [remaining, hb] at hrem
  split at hrem
  · next left hsub =>
    split at hrem
    · cases hrem
    · exact ⟨left, (Option.some.inj hrem).symm, (Duration.checkedSub_eq_some.mp hsub).2⟩
  · cases hrem

/-- In a call without a timeout no attempt has one. -/
theorem timeoutAt_of_no_budget {c : RetryInput υ ε ρ} (hb : c.totalBudget = none) (i : Nat) :
    c.timeoutAt i = none := by
  simp [timeoutAt, remaining, hb]

/-- A pause that fits in a call with a timeout ends before it. -/
theorem pause_in_budget {c : RetryInput υ ε ρ} {budget : Duration}
    (hb : c.totalBudget = some budget) {i : Nat} (h : c.fits i) :
    (c.elapsedAfter i).nanos + (c.pauseAt i).nanos < budget.nanos :=
  Nat.not_le.mp fun hle => not_fits_iff.mpr ⟨budget, hb, hle⟩ h

/-! ## The whole run -/

/-- Every attempt of a run was due, and every pause of it fits. -/
theorem due_and_fits_of_run (c : RetryInput υ ε ρ) :
    (∀ i timeout, (i, timeout) ∈ c.runWithRetry.attempts → c.due i ∧ timeout = c.timeoutAt i) ∧
    (∀ i sleepFor, (i, sleepFor) ∈ c.runWithRetry.pauses →
      c.fits i ∧ sleepFor = c.pauseAt i) := by
  have hend := c.runWithRetry_ending
  generalize c.runWithRetry = r at hend
  have hpause : ∀ n, (∀ j < n, c.stays j) → ∀ i sleepFor,
      (i, sleepFor) ∈ (List.range n).map (fun i => (i, c.pauseAt i)) →
      c.fits i ∧ sleepFor = c.pauseAt i := by
    intro n hstay i sleepFor h
    obtain ⟨j, hj, he⟩ := List.mem_map.mp h
    cases he
    exact ⟨(retries_of_goesOn (hstay i (List.mem_range.mp hj)).2).2, rfl⟩
  have hattempt : ∀ n, (∀ j < n, c.stays j) → ∀ i timeout,
      (i, timeout) ∈ (List.range n).map (fun i => (i, c.timeoutAt i)) →
      c.due i ∧ timeout = c.timeoutAt i := by
    intro n hstay i timeout h
    obtain ⟨j, hj, he⟩ := List.mem_map.mp h
    cases he
    exact ⟨(hstay i (List.mem_range.mp hj)).1, rfl⟩
  cases hend with
  | exhausted hstay =>
    rw [pauses_full, RetryOutcome.attempts, eventsBefore_attempts]
    exact ⟨hattempt _ hstay, hpause _ hstay⟩
  | @spent n _ hstay _ =>
    rw [pauses_full, RetryOutcome.attempts, eventsBefore_attempts]
    exact ⟨hattempt n hstay, hpause n hstay⟩
  | @stopped n _ hstay hdue _ =>
    rw [pauses_stopped]
    refine ⟨fun i timeout h => ?_, hpause n hstay⟩
    rw [RetryOutcome.attempts, List.filterMap_append, List.mem_append,
      eventsBefore_attempts] at h
    rcases h with h | h
    · exact hattempt n hstay i timeout h
    · have he : (i, timeout) = (n, c.timeoutAt n) := List.mem_singleton.mp h
      cases he
      exact ⟨hdue, rfl⟩

theorem elapsedBefore_mono {c : RetryInput υ ε ρ} (h : c.ClockMonotone) {i j : Nat} (hij : i ≤ j) :
    (c.elapsedBefore i).nanos ≤ (c.elapsedBefore j).nanos := by
  induction hij with
  | refl => exact Nat.le_refl _
  | step _ ih => exact Nat.le_trans ih (Nat.le_trans (h _).1 (h _).2)

/-- Under a clock that advances only during attempts and pauses, the reading at
the top of iteration `n` is the time the full iterations before it took. -/
theorem spent_eventsBefore {c : RetryInput υ ε ρ} {took : Nat → Nat} {n : Nat}
    (hstart : (c.elapsedBefore 0).nanos = 0)
    (hattempt : ∀ i < n, (c.elapsedAfter i).nanos = (c.elapsedBefore i).nanos + took i)
    (hpause : ∀ i < n,
      (c.elapsedBefore (i + 1)).nanos = (c.elapsedAfter i).nanos + (c.pauseAt i).nanos) :
    spent took (c.eventsBefore n) = (c.elapsedBefore n).nanos := by
  induction n with
  | zero => exact hstart.symm
  | succ n ih =>
    have hbefore := ih (fun i hi => hattempt i (Nat.lt_succ_of_lt hi))
      (fun i hi => hpause i (Nat.lt_succ_of_lt hi))
    have hn := hattempt n (Nat.lt_succ_self n)
    have hp := hpause n (Nat.lt_succ_self n)
    rw [eventsBefore_succ, spent_append, hbefore, hp, hn]
    simp only [attemptAt, spent, Nat.add_zero, Nat.add_assoc]

/-- A run whose clock is `Timed` ends within the timeout of the call. -/
theorem spent_le_budget {c : RetryInput υ ε ρ} {budget : Duration}
    (hb : c.totalBudget = some budget) {took : Nat → Nat} (h : c.Timed took) :
    spent took c.runWithRetry.events ≤ budget.nanos := by
  obtain ⟨hstart, hattempt, hpause, hwithin⟩ := h
  have hend := c.runWithRetry_ending
  generalize c.runWithRetry = r at hend hattempt hpause hwithin
  -- A full prefix of `n` iterations takes what the clock reads at the top of iteration `n`, and
  -- ends with a pause that fits, so it leaves some of the budget.
  have hfull : ∀ n, (∀ j < n, c.stays j) →
      (∀ i < n, (c.elapsedAfter i).nanos = (c.elapsedBefore i).nanos + took i) →
      (∀ i < n, (c.elapsedBefore (i + 1)).nanos =
        (c.elapsedAfter i).nanos + (c.pauseAt i).nanos) →
      spent took (c.eventsBefore n) = (c.elapsedBefore n).nanos ∧
        (c.elapsedBefore n).nanos ≤ budget.nanos := by
    intro n hstay ha hp
    refine ⟨spent_eventsBefore hstart ha hp, ?_⟩
    cases n with
    | zero => rw [hstart]; exact Nat.zero_le _
    | succ m =>
      have hfits := pause_in_budget hb
        (retries_of_goesOn (hstay m (Nat.lt_succ_self m)).2).2
      rw [hp m (Nat.lt_succ_self m)]
      exact Nat.le_of_lt hfits
  cases hend with
  | exhausted hstay =>
    rw [pauses_full] at hpause
    rw [RetryOutcome.attempts, eventsBefore_attempts] at hattempt
    obtain ⟨hspent, hle⟩ := hfull _ hstay
      (fun i hi => hattempt i _ (List.mem_map.mpr ⟨i, List.mem_range.mpr hi, rfl⟩))
      (fun i hi => hpause i _ (List.mem_map.mpr ⟨i, List.mem_range.mpr hi, rfl⟩))
    rw [hspent]
    exact hle
  | @spent n _ hstay _ =>
    rw [pauses_full] at hpause
    rw [RetryOutcome.attempts, eventsBefore_attempts] at hattempt
    obtain ⟨hspent, hle⟩ := hfull n hstay
      (fun i hi => hattempt i _ (List.mem_map.mpr ⟨i, List.mem_range.mpr hi, rfl⟩))
      (fun i hi => hpause i _ (List.mem_map.mpr ⟨i, List.mem_range.mpr hi, rfl⟩))
    rw [hspent]
    exact hle
  | @stopped n _ hstay hdue _ =>
    rw [pauses_stopped] at hpause
    rw [RetryOutcome.attempts, List.filterMap_append, eventsBefore_attempts] at hattempt hwithin
    obtain ⟨hspent, _⟩ := hfull n hstay
      (fun i hi => hattempt i _ (List.mem_append_left _
        (List.mem_map.mpr ⟨i, List.mem_range.mpr hi, rfl⟩)))
      (fun i hi => hpause i _ (List.mem_map.mpr ⟨i, List.mem_range.mpr hi, rfl⟩))
    obtain ⟨hlt, left, htimeout, hleft⟩ := attempt_in_budget hb hdue
    have hlast : took n ≤ left.nanos := by
      refine hwithin n left (List.mem_append_right _ ?_)
      rw [← htimeout]
      exact List.mem_singleton_self _
    rw [spent_append, hspent]
    show (c.elapsedBefore n).nanos + (took n + 0) ≤ budget.nanos
    omega

/-- The timeout of a call is a total budget. With a timeout `B`, every attempt is
started before `B` and given exactly what is left of it, which is positive and,
under a clock that never goes back, never more than an earlier attempt was given;
every pause is started only when it ends before `B`; and a run whose clock is
`Timed` takes at most `B`. Without a timeout no attempt has one. -/
theorem timeout_is_total_budget (c : RetryInput υ ε ρ) :
    (∀ budget, c.totalBudget = some budget →
      (∀ i timeout, (i, timeout) ∈ c.runWithRetry.attempts →
        (c.elapsedBefore i).nanos < budget.nanos ∧ ∃ left, timeout = some left ∧
          left.nanos = budget.nanos - (c.elapsedBefore i).nanos ∧ 0 < left.nanos) ∧
      (c.ClockMonotone → ∀ i j left left', i ≤ j → (i, some left) ∈ c.runWithRetry.attempts →
        (j, some left') ∈ c.runWithRetry.attempts → left'.nanos ≤ left.nanos) ∧
      (∀ i sleepFor, (i, sleepFor) ∈ c.runWithRetry.pauses →
        (c.elapsedAfter i).nanos + sleepFor.nanos < budget.nanos) ∧
      (∀ took, c.Timed took → spent took c.runWithRetry.events ≤ budget.nanos)) ∧
    (c.totalBudget = none → ∀ i timeout, (i, timeout) ∈ c.runWithRetry.attempts →
      timeout = none) := by
  obtain ⟨hatt, hpause⟩ := c.due_and_fits_of_run
  refine ⟨fun budget hb => ⟨?_, ?_, ?_, fun took h => spent_le_budget hb h⟩, ?_⟩
  · intro i timeout h
    obtain ⟨hdue, rfl⟩ := hatt i timeout h
    obtain ⟨hlt, left, htimeout, hleft⟩ := attempt_in_budget hb hdue
    exact ⟨hlt, left, htimeout, hleft, by omega⟩
  · intro hmono i j left left' hij hi hj
    -- Both were given what the clock had left, and the clock has only advanced.
    obtain ⟨hduei, hlefti⟩ := hatt i _ hi
    obtain ⟨hduej, hleftj⟩ := hatt j _ hj
    obtain ⟨_, a, ha, hna⟩ := attempt_in_budget hb hduei
    obtain ⟨_, b, hb', hnb⟩ := attempt_in_budget hb hduej
    rw [ha, Option.some.injEq] at hlefti
    rw [hb', Option.some.injEq] at hleftj
    subst hlefti hleftj
    have hclock := elapsedBefore_mono hmono hij
    omega
  · intro i sleepFor h
    obtain ⟨hfits, rfl⟩ := hpause i sleepFor h
    exact pause_in_budget hb hfits
  · intro hb i timeout h
    rw [(hatt i timeout h).2, timeoutAt_of_no_budget hb]

end RetryInput

/-! ## A run that keeps to its timeout -/

/-- A call with four seconds. Each attempt and each pause takes one, the first
answer is `Unavailable` and the second a response. -/
def secondAttemptAnswers : RetryInput Unit Unit Unit where
  config := GrpcRetryConfig.default
  classifier := stdRetryClassifier
  scheduler := ⟨fun _ _ _ => Duration.fromSecs 1, fun _ _ _ _ => Duration.fromSecs 1⟩
  path := "/test.Peer/Echo"
  totalBudget := some (Duration.fromSecs 4)
  elapsedBefore := fun i => Duration.fromSecs (2 * UInt64.ofNat i)
  elapsedAfter := fun i => Duration.fromSecs (2 * UInt64.ofNat i + 1)
  jitter := fun _ => ()
  attempt := fun i _ =>
    ⟨[()], if i = 0 then .error (.status "/test.Peer/Echo" .unavailable "" .empty) else .ok ()⟩

/-- Its clock is `Timed`, so `timeout_is_total_budget` bounds it by its timeout. -/
theorem second_attempt_in_budget :
    RetryInput.spent (fun _ => 1000000000) secondAttemptAnswers.runWithRetry.events ≤
      (Duration.fromSecs 4).nanos := by
  have hattempts : secondAttemptAnswers.runWithRetry.attempts =
      [(0, some (Duration.fromSecs 4)), (1, some (Duration.fromSecs 2))] := by decide
  have hpauses : secondAttemptAnswers.runWithRetry.pauses = [(0, Duration.fromSecs 1)] := by decide
  refine (RetryInput.timeout_is_total_budget secondAttemptAnswers).1 _ rfl |>.2.2.2 _
    ⟨rfl, ?_, ?_, ?_⟩
  · intro i timeout h
    rw [hattempts] at h
    rcases List.mem_cons.mp h with h | h
    · cases h; rfl
    · cases List.mem_singleton.mp h; rfl
  · intro i sleepFor h
    rw [hpauses] at h
    cases List.mem_singleton.mp h
    rfl
  · intro i left h
    rw [hattempts] at h
    rcases List.mem_cons.mp h with h | h
    · cases h; decide
    · cases List.mem_singleton.mp h; decide

end GrpcEgress
