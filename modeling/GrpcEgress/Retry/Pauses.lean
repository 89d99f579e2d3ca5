import GrpcEgress.Retry.Attempts

/-!
# Pauses with nothing after them

The give-up test of each track looks at the counter of that track, while the
loop is bounded by the number of attempts of both. When the two tracks are mixed,
or the rate-limit track is used at all on the last attempt allowed, neither test
fires on the last index: the caller waits out a pause and the range is exhausted.

1. `wastesLastPause_iff`: that happens iff every iteration of the range is full;
2. `never_pauses_for_nothing_iff`: the run meets `NeverPausesForNothing` iff it
   does not;
3. `one_attempt_pauses`: one attempt is allowed, it is rate limited, and the
   caller still waits.
-/

namespace GrpcEgress

/-- Each pause of a trace has an attempt right after it. -/
def EveryPauseFollowed {ε : Type} : List (RetryEvent ε) → Prop
  | [] => True
  | .attempt _ _ _ :: rest => EveryPauseFollowed rest
  | [.pause _ _] => False
  | .pause _ _ :: .pause _ _ :: _ => False
  | .pause _ _ :: .attempt _ _ _ :: rest => EveryPauseFollowed rest

namespace RetryInput

variable {υ ε ρ : Type}

/-- Retry never pauses for nothing: a pause is started only when `max_attempts`
allows an attempt after it, and in a call without a timeout every pause is
followed by an attempt and there is one pause less than there are attempts. -/
def NeverPausesForNothing (c : RetryInput υ ε ρ) : Prop :=
  (∀ p ∈ c.runWithRetry.pauses, p.1 + 1 < c.config.maxAttempts.toNat) ∧
  (c.totalBudget = none → EveryPauseFollowed c.runWithRetry.events ∧
    c.runWithRetry.pauses.length + 1 = c.runWithRetry.attempts.length)

/-- Every attempt that `max_attempts` allows is due, retried and has a pause that
fits, and some of them but no more than the rate-limit track allows were rate
limited. -/
def WastesLastPause (c : RetryInput υ ε ρ) : Prop :=
  (∀ i < c.config.maxAttempts.toNat, c.due i ∧ (c.decision i).retries = true ∧ c.fits i) ∧
  1 ≤ c.rateLimBefore c.config.maxAttempts.toNat ∧
  c.rateLimBefore c.config.maxAttempts.toNat ≤ c.config.rateLimitMaxAttempts.toNat

/-- When every outcome is retried, each one moves one of the counters. -/
theorem counters_eq {c : RetryInput υ ε ρ} {n : Nat}
    (h : ∀ i < n, (c.decision i).retries = true) :
    c.standardBefore n + c.rateLimBefore n = n := by
  induction n with
  | zero => rfl
  | succ n ih =>
    have hn := ih fun i hi => h i (Nat.lt_succ_of_lt hi)
    have hr := h n (Nat.lt_succ_self n)
    rw [standardBefore_succ, rateLimBefore_succ]
    cases hd : c.decision n with
    | success => rw [hd] at hr; cases hr
    | terminal => rw [hd] at hr; cases hr
    | retry => simp only [if_true, reduceCtorEq, if_false]; omega
    | retryRateLimit => simp only [if_true, reduceCtorEq, if_false]; omega

theorem rateLimBefore_mono (c : RetryInput υ ε ρ) {m n : Nat} (h : m ≤ n) :
    c.rateLimBefore m ≤ c.rateLimBefore n := by
  induction h with
  | refl => exact Nat.le_refl _
  | step _ ih =>
    rw [rateLimBefore_succ]
    exact Nat.le_trans ih (Nat.le_add_right _ _)

/-- The last pause is wasted iff every iteration of the range is full. -/
theorem wastesLastPause_iff (c : RetryInput υ ε ρ) :
    c.WastesLastPause ↔ ∀ i < c.config.maxAttempts.toNat, c.stays i := by
  have hmax := c.config.one_le_maxAttempts
  constructor
  · rintro ⟨hall, hone, hrl⟩ i hi
    obtain ⟨hdue, hret, hfits⟩ := hall i hi
    refine ⟨hdue, ?_⟩
    have hcount := counters_eq fun j (hj : j < i) => (hall j (Nat.lt_trans hj hi)).2.1
    have hmono := c.rateLimBefore_mono (m := i + 1) (n := c.config.maxAttempts.toNat) hi
    rw [rateLimBefore_succ] at hmono
    unfold goesOn
    cases hd : c.decision i with
    | success => rw [hd] at hret; cases hret
    | terminal => rw [hd] at hret; cases hret
    | retry =>
      refine ⟨?_, hfits⟩
      by_cases hlast : i + 1 = c.config.maxAttempts.toNat
      · -- The last outcome is `Retry`, so an earlier one was `RetryRateLimit`.
        rw [← hlast, rateLimBefore_succ, hd] at hone
        simp only [reduceCtorEq, if_false, Nat.add_zero] at hone
        omega
      · omega
    | retryRateLimit =>
      rw [hd] at hmono
      simp only [if_true] at hmono
      exact ⟨Nat.le_trans hmono hrl, hfits⟩
  · intro hstay
    have hgo := fun i hi => retries_of_goesOn (hstay i hi).2
    refine ⟨fun i hi => ⟨(hstay i hi).1, hgo i hi⟩, ?_, rateLimBefore_le hstay⟩
    obtain ⟨m, hm⟩ : ∃ m, c.config.maxAttempts.toNat = m + 1 :=
      ⟨c.config.maxAttempts.toNat - 1, by omega⟩
    have hlast := (hstay m (by omega)).2
    have hcount := counters_eq fun j (hj : j < m) => (hgo j (by omega)).1
    rw [hm, rateLimBefore_succ]
    unfold goesOn at hlast
    cases hd : c.decision m with
    | success => rw [hd] at hlast; exact hlast.elim
    | terminal => rw [hd] at hlast; exact hlast.elim
    | retry =>
      rw [hd] at hlast
      have hstd := hlast.1
      omega
    | retryRateLimit => simp only [if_true]; omega

/-- A trace of full iterations with an attempt after it has no wasted pause. -/
theorem everyPauseFollowed_between (c : RetryInput υ ε ρ) (n i : Nat) :
    EveryPauseFollowed (RangeLoop.between c.eventsAt i n ++ [c.attemptAt (i + n)]) := by
  induction n generalizing i with
  | zero => trivial
  | succ n ih =>
    have hrest := ih (i + 1)
    rw [show i + 1 + n = i + (n + 1) by omega] at hrest
    rw [RangeLoop.between_succ, List.append_assoc]
    show EveryPauseFollowed (.pause i (c.pauseAt i) :: (RangeLoop.between c.eventsAt (i + 1) n ++
      [c.attemptAt (i + (n + 1))]))
    cases n with
    | zero => trivial
    | succ n =>
      rw [RangeLoop.between_succ] at hrest ⊢
      exact hrest

/-- A call without a timeout never finds its budget spent. -/
theorem due_of_no_budget {c : RetryInput υ ε ρ} (h : c.totalBudget = none) (i : Nat) : c.due i := by
  simp only [due, remaining, h, Option.isSome_some]

/-- In every run, retry never pauses for nothing iff the last pause is not wasted. -/
theorem never_pauses_for_nothing_iff (c : RetryInput υ ε ρ) :
    c.NeverPausesForNothing ↔ ¬ c.WastesLastPause := by
  have hmax := c.config.one_le_maxAttempts
  have hend := c.runWithRetry_ending
  rw [wastesLastPause_iff, NeverPausesForNothing]
  generalize c.runWithRetry = r at hend
  cases hend with
  | exhausted hstay =>
    refine ⟨fun h => ?_, fun h => absurd hstay h⟩
    -- The pause of the last index has no attempt after it.
    have hlast := h.1 (c.config.maxAttempts.toNat - 1, c.pauseAt (c.config.maxAttempts.toNat - 1))
    rw [pauses_full] at hlast
    have hlt := hlast (List.mem_map.mpr ⟨_, List.mem_range.mpr (by omega), rfl⟩)
    omega
  | @spent n hn hstay hdue =>
    refine ⟨fun _ hall => hdue (hall n hn).1, fun _ => ⟨?_, fun hb => ?_⟩⟩
    · rw [pauses_full]
      intro p hp
      obtain ⟨i, hi, rfl⟩ := List.mem_map.mp hp
      exact Nat.lt_of_le_of_lt (List.mem_range.mp hi) hn
    · exact absurd (due_of_no_budget hb n) hdue
  | @stopped n hn hstay hdue hgo =>
    refine ⟨fun _ hall => hgo (hall n hn).2, fun _ => ⟨?_, fun _ => ⟨?_, ?_⟩⟩⟩
    · rw [pauses_stopped]
      intro p hp
      obtain ⟨i, hi, rfl⟩ := List.mem_map.mp hp
      exact Nat.lt_of_le_of_lt (List.mem_range.mp hi) hn
    · have h := c.everyPauseFollowed_between n 0
      rw [Nat.zero_add] at h
      exact h
    · rw [pauses_stopped, attempts_stopped, List.length_map, List.length_range]

end RetryInput

/-! ## A pause after the only attempt -/

/-- A policy with one attempt. -/
def oneAttempt : GrpcRetryConfig :=
  { GrpcRetryConfig.default with maxAttempts := 1, maxAttempts_pos := u32_one_ne_zero }

/-- A peer that answers every attempt with a rate limit, under `oneAttempt`, the
standard classifier, a scheduler whose pauses last one second and no timeout. -/
def rateLimitedOnce : RetryInput Unit Unit Unit where
  config := oneAttempt
  classifier := stdRetryClassifier
  scheduler := ⟨fun _ _ _ => Duration.fromSecs 1, fun _ _ _ _ => Duration.fromSecs 1⟩
  path := "/test.Peer/Echo"
  totalBudget := none
  elapsedBefore := fun _ => .zero
  elapsedAfter := fun _ => .zero
  jitter := fun _ => ()
  attempt := fun _ _ =>
    ⟨[()], .error (.status "/test.Peer/Echo" .resourceExhausted "rate limit" .empty)⟩

/-- With one attempt allowed and a rate-limited answer, the caller waits a second
for an attempt that is not made. -/
theorem one_attempt_pauses : rateLimitedOnce.runWithRetry.events =
      [.attempt 0 none [()], .pause 0 (Duration.fromSecs 1)] ∧
    ¬ rateLimitedOnce.NeverPausesForNothing := by
  have hevents : rateLimitedOnce.runWithRetry.events =
      [.attempt 0 none [()], .pause 0 (Duration.fromSecs 1)] := by decide
  refine ⟨hevents, fun h => ?_⟩
  have hpause : (0, Duration.fromSecs 1) ∈ rateLimitedOnce.runWithRetry.pauses := by
    rw [RetryOutcome.pauses, hevents]
    exact List.mem_singleton_self _
  exact absurd (h.1 _ hpause) (by decide)

end GrpcEgress
