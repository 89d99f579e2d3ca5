import GrpcEgress.Contract.Calls
import GrpcEgress.Retry.Attempts
import GrpcEgress.Retry.Calls

/-!
# What the attempts of a call send

All eight calls of `GrpcRetryClient`. The two unary ones run the loop; the others are
forwarded once. The wrapped client is given whole calls, path and all.

Every attempt closure of a unary call hands the wrapped client one call, so what a run
sent can be read off its attempts:

1. `handed_of_single`: for any loop whose closure hands over one call each time;
2. `make_handed`: for a unary call, the caller's own call with the timeout of the
   attempt;
3. `handed_length_le`: no more than `max_attempts` calls, under any classifier.
-/

namespace GrpcEgress

/-- The calls that an event handed to the wrapped client, with the iteration. -/
def RetryEvent.handed {ε : Type} : RetryEvent ε → List (Nat × ε)
  | .attempt i _ sent => sent.map fun call => (i, call)
  | .pause _ _ => []

/-- The calls that a run handed to the wrapped client, with their iterations. -/
def RetryOutcome.handed {ε ρ : Type} (r : RetryOutcome ε ρ) : List (Nat × ε) :=
  r.events.flatMap RetryEvent.handed

@[simp]
theorem RetryOutcome.handed_sent {ε ρ : Type} (r : RetryOutcome ε ρ) :
    r.handed.map Prod.snd = r.sent := by
  simp only [handed, sent, List.map_flatMap]
  congr 1
  funext e
  cases e with
  | attempt i timeout sent =>
    simp only [RetryEvent.handed, List.map_map, Function.comp_def, List.map_id']
  | pause i sleepFor => rfl

@[simp]
theorem RetryOutcome.translate_handed {ε ε' ρ ρ' : Type} (f : ε → ε') (g : ρ → ρ')
    (r : RetryOutcome ε ρ) :
    (r.translate f g).handed = r.handed.map fun entry => (entry.1, f entry.2) := by
  simp only [handed, translate, List.flatMap_map, List.map_flatMap]
  congr 1
  funext e
  cases e with
  | attempt i timeout sent =>
    simp only [RetryEvent.mapSent, RetryEvent.handed, List.map_map, Function.comp_def]
  | pause i sleepFor => rfl

namespace RetryInput

variable {υ ε ρ : Type}

/-- An attempt in a trace handed over what the closure of its iteration does. -/
def Honest (c : RetryInput υ ε ρ) : RetryEvent ε → Prop
  | .attempt i timeout sent => sent = (c.attempt i timeout).sent
  | .pause _ _ => True

theorem eventsBefore_honest (c : RetryInput υ ε ρ) (n : Nat) :
    ∀ e ∈ c.eventsBefore n, c.Honest e := by
  induction n with
  | zero => exact fun e member => (nomatch member)
  | succ n ih =>
    rw [eventsBefore_succ]
    intro e member
    rcases List.mem_append.mp member with before | last
    · exact ih e before
    · rcases List.mem_cons.mp last with rfl | pause
      · exact rfl
      · rw [List.mem_singleton.mp pause]
        exact trivial

/-- Every attempt of a run is honest. -/
theorem runWithRetry_honest (c : RetryInput υ ε ρ) :
    ∀ e ∈ c.runWithRetry.events, c.Honest e := by
  have ended := c.runWithRetry_ending
  generalize c.runWithRetry = r at ended
  cases ended with
  | exhausted _ => exact c.eventsBefore_honest _
  | spent _ _ _ => exact c.eventsBefore_honest _
  | stopped _ _ _ _ =>
    intro e member
    rcases List.mem_append.mp member with before | last
    · exact c.eventsBefore_honest _ e before
    · rw [List.mem_singleton.mp last]
      exact rfl

/-- A closure that hands over one call each time: the calls of a run are those of its
attempts. -/
theorem handed_of_single (c : RetryInput υ ε ρ) (call : Nat → Option Duration → ε)
    (single : ∀ i timeout, (c.attempt i timeout).sent = [call i timeout]) :
    c.runWithRetry.handed =
      c.runWithRetry.attempts.map fun made => (made.1, call made.1 made.2) := by
  have honest := c.runWithRetry_honest
  unfold RetryOutcome.handed RetryOutcome.attempts
  generalize c.runWithRetry.events = events at honest
  induction events with
  | nil => rfl
  | cons e events ih =>
    obtain ⟨now, later⟩ := List.forall_mem_cons.mp honest
    rw [List.flatMap_cons, ih later]
    cases e with
    | attempt i timeout sent =>
      have one : sent = [call i timeout] := now.trans (single i timeout)
      rw [one]
      rfl
    | pause i sleepFor => rfl

/-- A closure that hands over at most one call each time: no more calls than attempts. -/
theorem sent_length_le {c : RetryInput υ ε ρ}
    (single : ∀ i timeout, (c.attempt i timeout).sent.length ≤ 1) :
    c.runWithRetry.sent.length ≤ c.runWithRetry.attempts.length := by
  have honest := c.runWithRetry_honest
  unfold RetryOutcome.sent RetryOutcome.attempts
  generalize c.runWithRetry.events = events at honest
  induction events with
  | nil => exact Nat.le_refl 0
  | cons e events ih =>
    obtain ⟨now, later⟩ := List.forall_mem_cons.mp honest
    rw [List.flatMap_cons, List.length_append]
    cases e with
    | attempt i timeout sent =>
      have one : sent.length ≤ 1 := by
        rw [show sent = (c.attempt i timeout).sent from now]
        exact single i timeout
      exact Nat.le_trans (Nat.add_le_add one (ih later)) (Nat.le_of_eq (Nat.add_comm 1 _))
    | pause i sleepFor =>
      rw [List.length_nil, Nat.zero_add]
      exact ih later

/-- A run makes no more attempts than it is allowed. -/
theorem attempts_length_le (c : RetryInput υ ε ρ) :
    c.runWithRetry.attempts.length ≤ c.config.maxAttempts.toNat := by
  have ended := c.runWithRetry_ending
  generalize c.runWithRetry = r at ended
  cases ended with
  | exhausted _ => exact Nat.le_of_eq (c.attempts_full _ _)
  | spent below _ _ =>
    rw [c.attempts_full]
    exact Nat.le_of_lt below
  | stopped below _ _ _ =>
    rw [c.attempts_stopped]
    exact below

/-- An attempt that was retried did not succeed, under a classifier that retries only
failures. -/
theorem failed_of_stays {c : RetryInput υ ε ρ} (hc : c.classifier.RetriesOnlyFailures) {i : Nat}
    (stays : c.stays i) (response : ρ) : c.answer i ≠ .ok response := by
  intro good
  have retried := (retries_of_goesOn stays.2).1
  rw [decision, good] at retried
  exact absurd retried (by rw [show forget (Except.ok response) = .ok () from rfl, hc ()]; decide)

/-- An attempt that succeeds gives the run its result. -/
theorem result_of_success {c : RetryInput υ ε ρ} (hc : c.classifier.RetriesOnlyFailures)
    {i : Nat} {timeout : Option Duration} {response : ρ}
    (made : (i, timeout) ∈ c.runWithRetry.attempts)
    (good : (c.attempt i timeout).result = .ok response) :
    c.runWithRetry.result = some (.ok response) := by
  have ended := c.runWithRetry_ending
  generalize c.runWithRetry = r at ended made
  have full : ∀ n, (∀ j < n, c.stays j) →
      (i, timeout) ∈ (List.range n).map (fun i => (i, c.timeoutAt i)) → False := by
    intro n stayed member
    obtain ⟨j, below, same⟩ := List.mem_map.mp member
    cases same
    exact failed_of_stays hc (stayed i (List.mem_range.mp below)) response good
  cases ended with
  | exhausted stayed =>
    rw [RetryOutcome.attempts, eventsBefore_attempts] at made
    exact (full _ stayed made).elim
  | spent _ stayed _ =>
    rw [RetryOutcome.attempts, eventsBefore_attempts] at made
    exact (full _ stayed made).elim
  | @stopped n _ stayed _ leaves =>
    -- The attempts before the last one were retried, so the last one succeeded.
    rw [RetryOutcome.attempts, List.filterMap_append, eventsBefore_attempts] at made
    rcases List.mem_append.mp made with before | last
    · exact (full n stayed before).elim
    · obtain ⟨rfl, rfl⟩ : i = n ∧ timeout = c.timeoutAt n :=
        Prod.mk.inj (List.mem_singleton.mp last)
      have success : (c.decision i).retries = false := by
        rw [decision, answer, good]
        exact hc ()
      simp only [finalAnswer, success, Bool.false_eq_true, if_false]
      exact congrArg some good

/-- An attempt that is not retried is the last one, and gives the run its result. -/
theorem result_of_final {c : RetryInput υ ε ρ} {i : Nat} {timeout : Option Duration}
    (made : (i, timeout) ∈ c.runWithRetry.attempts)
    (final : (c.classifier.classify (forget (c.attempt i timeout).result)).retries = false) :
    c.runWithRetry.result = some (c.attempt i timeout).result ∧
      c.runWithRetry.attempts.length = i + 1 := by
  have ended := c.runWithRetry_ending
  generalize c.runWithRetry = r at ended made
  have full : ∀ n, (∀ j < n, c.stays j) →
      (i, timeout) ∈ (List.range n).map (fun i => (i, c.timeoutAt i)) → False := by
    intro n stayed member
    obtain ⟨j, below, same⟩ := List.mem_map.mp member
    cases same
    have retried := (retries_of_goesOn (stayed i (List.mem_range.mp below)).2).1
    exact Bool.false_ne_true (final.symm.trans retried)
  cases ended with
  | exhausted stayed =>
    rw [RetryOutcome.attempts, eventsBefore_attempts] at made
    exact (full _ stayed made).elim
  | spent _ stayed _ =>
    rw [RetryOutcome.attempts, eventsBefore_attempts] at made
    exact (full _ stayed made).elim
  | @stopped n _ stayed _ _ =>
    rw [RetryOutcome.attempts, List.filterMap_append, eventsBefore_attempts] at made
    rcases List.mem_append.mp made with before | last
    · exact (full n stayed before).elim
    · obtain ⟨rfl, rfl⟩ : i = n ∧ timeout = c.timeoutAt n :=
        Prod.mk.inj (List.mem_singleton.mp last)
      have leaves : (c.decision i).retries = false := final
      refine ⟨?_, c.attempts_stopped i _⟩
      simp only [finalAnswer, leaves, Bool.false_eq_true, if_false]
      rfl

/-- A loop whose first attempt would hand a call over and that handed none over had spent
its budget before. -/
theorem result_of_unsent {c : RetryInput υ ε ρ}
    (first : ∀ timeout, (c.attempt 0 timeout).sent ≠ []) (unsent : c.runWithRetry.sent = []) :
    c.runWithRetry.result = some (.error (deadlineExhausted c.path)) := by
  have begun : ∀ n rest result,
      (⟨c.eventsBefore (n + 1) ++ rest, result⟩ : RetryOutcome ε ρ).sent ≠ [] := by
    intro n rest result empty
    rw [RetryOutcome.sent, eventsBefore, RangeLoop.between_succ, List.append_assoc,
      List.flatMap_append] at empty
    obtain ⟨zeroth, -⟩ := List.append_eq_nil_iff.mp empty
    obtain ⟨made, -⟩ := List.append_eq_nil_iff.mp zeroth
    exact first _ made
  have full : ∀ n result, (⟨c.eventsBefore (n + 1), result⟩ : RetryOutcome ε ρ).sent ≠ [] := by
    intro n result
    have sent := begun n [] result
    rw [List.append_nil] at sent
    exact sent
  have ended := c.runWithRetry_ending
  generalize c.runWithRetry = r at ended unsent ⊢
  cases ended with
  | exhausted _ =>
    obtain ⟨n, more⟩ := Nat.exists_eq_add_of_le' c.config.one_le_maxAttempts
    rw [more] at unsent
    exact absurd unsent (full n _)
  | @spent n _ _ _ =>
    cases n with
    | zero => rfl
    | succ n => exact absurd unsent (full n _)
  | @stopped n _ _ _ _ =>
    cases n with
    | zero =>
      obtain ⟨made, -⟩ := List.append_eq_nil_iff.mp unsent
      exact absurd made (first _)
    | succ n => exact absurd unsent (begun n _ _)

/-- What a run handed over came from an attempt that it made. -/
theorem attempt_of_handed {c : RetryInput υ ε ρ} {i : Nat} {call : ε}
    (handed : (i, call) ∈ c.runWithRetry.handed) :
    ∃ timeout, (i, timeout) ∈ c.runWithRetry.attempts ∧ call ∈ (c.attempt i timeout).sent := by
  have honest := c.runWithRetry_honest
  obtain ⟨e, member, has⟩ := List.mem_flatMap.mp handed
  cases e with
  | pause j sleepFor => cases has
  | attempt j timeout sent =>
    obtain ⟨call', inCalls, same⟩ := List.mem_map.mp has
    cases same
    refine ⟨timeout, List.mem_filterMap.mpr ⟨_, member, rfl⟩, ?_⟩
    rw [← (honest _ member : sent = _)]
    exact inCalls

end RetryInput

/-! ## The eight calls -/

/-- A payload decodes what it encoded. -/
def Payload.RoundTrips {μ : Type} (payload : Payload μ) : Prop :=
  ∀ message encoded, payload.encode message = .ok encoded → payload.decode encoded = .ok message

namespace GrpcRetryClient

variable {υ μ σ τ ρ : Type}

/-- A call that is not retried. -/
def forward {ε : Type} (inner : Nat → ε → Except CallError ρ) (timeout : Option Duration)
    (call : ε) : RetryOutcome ε ρ :=
  ⟨[.attempt 0 timeout [call]], some (inner 0 call)⟩

/-- The calls of a `GrpcRetryClient`: the wrapped client answers its `i`-th invocation
of this call with `inner i`. -/
def make (client : GrpcRetryClient υ) (env : Surroundings υ) (payload : Payload μ)
    (inner : Nat → EgressCall μ σ τ → Except CallError ρ) :
    EgressCall μ σ τ → RetryOutcome (EgressCall μ σ τ) ρ
  | .call path request =>
    (client.call env payload path (fun i sent => inner i (.call path sent)) request).translate
      (.call path) id
  | .callServerStream path request =>
    forward inner request.options.timeout (.callServerStream path request)
  | .callClientStream path request =>
    forward inner request.options.timeout (.callClientStream path request)
  | .callBidiStream path request =>
    forward inner request.options.timeout (.callBidiStream path request)
  | .callRaw request =>
    (client.callRaw env (fun i sent => inner i (.callRaw sent)) request).translate .callRaw id
  | .callRawServerStream ⟨path, message, options⟩ =>
    forward inner options.timeout (.callRawServerStream ⟨path, message, options⟩)
  | .callRawClientStream ⟨path, requests, options⟩ =>
    forward inner options.timeout (.callRawClientStream ⟨path, requests, options⟩)
  | .callRawBidiStream ⟨path, requests, options⟩ =>
    forward inner options.timeout (.callRawBidiStream ⟨path, requests, options⟩)

variable (client : GrpcRetryClient υ) (env : Surroundings υ) {payload : Payload μ}

/-- The typed unary call: the caller's message and metadata in every attempt. -/
theorem call_handed (roundTrips : payload.RoundTrips) (path : String)
    (inner : Nat → CallRequest μ → Except CallError ρ) (request : CallRequest μ) :
    let run := client.call env payload path inner request
    run.handed = run.attempts.map fun made =>
      (made.1, ⟨request.message, ⟨made.2, request.options.metadata⟩⟩) := by
  intro run
  by_cases one : client.config.maxAttempts.toNat ≤ 1
  · have forwarded : run =
        ⟨[.attempt 0 request.options.timeout [request]], some (inner 0 request)⟩ := if_pos one
    rw [forwarded]
    rfl
  · cases encoding : payload.encode request.message with
    | error reason =>
      have nothing : run = ⟨[], some (.error (.encode reason))⟩ := by
        simp only [run, call, one, if_false, encoding]
      rw [nothing]
      rfl
    | ok encoded =>
      let loop := client.retryInput env path request.options.timeout
        (typedAttempt payload inner request encoded)
      let again (timeout : Option Duration) : CallRequest μ :=
        ⟨request.message, ⟨timeout, request.options.metadata⟩⟩
      have ran : run = loop.runWithRetry := by
        simp only [run, loop, call, one, if_false, encoding]
      have single : ∀ i timeout, (loop.attempt i timeout).sent = [again timeout] := fun i timeout =>
        congrArg Attempt.sent (typedAttempt_of_decode (roundTrips _ _ encoding) i timeout)
      rw [ran]
      exact RetryInput.handed_of_single loop (fun _ timeout => again timeout) single

/-- The raw unary call. -/
theorem callRaw_handed (inner : Nat → CallRawRequest → Except CallError ρ)
    (request : CallRawRequest) :
    let run := client.callRaw env inner request
    run.handed = run.attempts.map fun made =>
      (made.1, ⟨request.path, request.message, ⟨made.2, request.options.metadata⟩⟩) :=
  RetryInput.handed_of_single (client.rawInput env inner request)
    (fun _ timeout => ⟨request.path, request.message, ⟨timeout, request.options.metadata⟩⟩)
    fun _ _ => rfl

/-- Each attempt hands over the caller's own call, its timeout apart. -/
theorem make_handed (roundTrips : payload.RoundTrips)
    (inner : Nat → EgressCall μ σ τ → Except CallError ρ) (c : EgressCall μ σ τ) :
    let run := client.make env payload inner c
    run.handed = run.attempts.map fun made =>
      (made.1, c.withOptions ⟨made.2, c.options.metadata⟩) := by
  intro run
  cases c with
  | call path request =>
    have handed := client.call_handed env roundTrips path
      (fun i sent => inner i (.call path sent)) request
    simp only [run, make, RetryOutcome.translate_handed, RetryOutcome.translate_attempts, handed,
      List.map_map]
    rfl
  | callRaw request =>
    have handed := client.callRaw_handed env (fun i sent => inner i (.callRaw sent)) request
    simp only [run, make, RetryOutcome.translate_handed, RetryOutcome.translate_attempts, handed,
      List.map_map]
    rfl
  | callServerStream | callClientStream | callBidiStream => rfl
  | callRawServerStream | callRawClientStream | callRawBidiStream => rfl

/-- A typed call whose message cannot be encoded makes no attempt when more than one is
allowed. -/
theorem make_of_encode_error (inner : Nat → EgressCall μ σ τ → Except CallError ρ)
    {path : String} {request : CallRequest μ} {reason : String}
    (more : 2 ≤ client.config.maxAttempts.toNat)
    (refused : payload.encode request.message = .error reason) :
    client.make env payload inner (.call path request) = ⟨[], some (.error (.encode reason))⟩ := by
  have many : ¬ client.config.maxAttempts.toNat ≤ 1 := Nat.not_le.mpr more
  simp only [make, call, many, if_false, refused]
  rfl

variable {client env}

/-- No call is handed to the wrapped client more often than `max_attempts` allows. -/
theorem make_sent_length_le (inner : Nat → EgressCall μ σ τ → Except CallError ρ)
    (c : EgressCall μ σ τ) :
    (client.make env payload inner c).sent.length ≤ client.config.maxAttempts.toNat := by
  have once := client.config.one_le_maxAttempts
  cases c with
  | call path request =>
    simp only [make, RetryOutcome.translate_sent, List.length_map, call]
    split
    · exact once
    · split
      · exact Nat.zero_le _
      · refine Nat.le_trans (RetryInput.sent_length_le fun i timeout => ?_)
          (RetryInput.attempts_length_le _)
        simp only [retryInput, typedAttempt]
        split
        · exact Nat.le_refl 1
        · exact Nat.zero_le 1
  | callRaw request =>
    simp only [make, RetryOutcome.translate_sent, List.length_map, callRaw]
    exact Nat.le_trans (RetryInput.sent_length_le fun _ _ => Nat.le_refl 1)
      (RetryInput.attempts_length_le _)
  | callServerStream | callClientStream | callBidiStream => exact once
  | callRawServerStream | callRawClientStream | callRawBidiStream => exact once

/-- A call that is forwarded has one invocation, and its result is the call's. -/
theorem forward_result_of_success {ε : Type} (answer : Nat → ε → Except CallError ρ)
    {timeout : Option Duration} {call sent : ε} {i : Nat} {response : ρ}
    (handed : (i, sent) ∈ (forward answer timeout call).handed)
    (good : answer i sent = .ok response) :
    (forward answer timeout call).result = some (.ok response) := by
  obtain ⟨rfl, rfl⟩ : i = 0 ∧ sent = call := Prod.mk.inj (List.mem_singleton.mp handed)
  exact congrArg some good

theorem call_result_of_success (hc : client.classifier.RetriesOnlyFailures) {path : String}
    {inner : Nat → CallRequest μ → Except CallError ρ} {request sent : CallRequest μ} {i : Nat}
    {response : ρ} (handed : (i, sent) ∈ (client.call env payload path inner request).handed)
    (good : inner i sent = .ok response) :
    (client.call env payload path inner request).result = some (.ok response) := by
  unfold call at handed ⊢
  split at handed
  · next one =>
    rw [if_pos one]
    exact forward_result_of_success inner handed good
  · next many =>
    rw [if_neg many]
    split at handed
    · cases handed
    · obtain ⟨timeout, made, closure⟩ := RetryInput.attempt_of_handed handed
      refine RetryInput.result_of_success hc made ?_
      simp only [retryInput, typedAttempt] at closure ⊢
      split at closure
      · rw [List.mem_singleton.mp closure] at good
        exact good
      · cases closure

theorem callRaw_result_of_success (hc : client.classifier.RetriesOnlyFailures)
    {inner : Nat → CallRawRequest → Except CallError ρ} {request sent : CallRawRequest} {i : Nat}
    {response : ρ} (handed : (i, sent) ∈ (client.callRaw env inner request).handed)
    (good : inner i sent = .ok response) :
    (client.callRaw env inner request).result = some (.ok response) := by
  obtain ⟨timeout, made, closure⟩ := RetryInput.attempt_of_handed handed
  refine RetryInput.result_of_success hc made ?_
  rw [List.mem_singleton.mp closure] at good
  exact good

/-- An attempt of the raw call that is not retried. -/
theorem callRaw_final {inner : Nat → CallRawRequest → Except CallError ρ}
    {request : CallRawRequest} {made : Nat × Option Duration} {answer : Except CallError ρ}
    (member : made ∈ (client.callRaw env inner request).attempts)
    (answered : inner made.1 ⟨request.path, request.message,
      ⟨made.2, request.options.metadata⟩⟩ = answer)
    (final : (client.classifier.classify (forget answer)).retries = false) :
    (client.callRaw env inner request).result = some answer ∧
      (client.callRaw env inner request).attempts.length = made.1 + 1 := by
  cases answered
  exact RetryInput.result_of_final member final

/-- An attempt of the typed call that is not retried. -/
theorem call_final (roundTrips : payload.RoundTrips) {path : String}
    {inner : Nat → CallRequest μ → Except CallError ρ} {request : CallRequest μ}
    {made : Nat × Option Duration} {answer : Except CallError ρ}
    (member : made ∈ (client.call env payload path inner request).attempts)
    (answered : inner made.1 ⟨request.message, ⟨made.2, request.options.metadata⟩⟩ = answer)
    (final : (client.classifier.classify (forget answer)).retries = false) :
    (client.call env payload path inner request).result = some answer ∧
      (client.call env payload path inner request).attempts.length = made.1 + 1 := by
  cases answered
  unfold call at member ⊢
  split at member
  · next one =>
    rw [if_pos one]
    cases List.mem_singleton.mp member
    exact ⟨rfl, rfl⟩
  · next many =>
    rw [if_neg many]
    split at member
    · cases member
    · next encoded encoding =>
      have own : ((client.retryInput env path request.options.timeout
          (typedAttempt payload inner request encoded)).attempt made.1 made.2).result =
          inner made.1 ⟨request.message, ⟨made.2, request.options.metadata⟩⟩ :=
        congrArg Attempt.result (typedAttempt_of_decode (roundTrips _ _ encoding) made.1 made.2)
      rw [← own]
      refine RetryInput.result_of_final member ?_
      rw [own]
      exact final

/-- Under a classifier that retries only failures, an invocation of the wrapped client
that succeeds gives the call its result. -/
theorem make_result_of_success (hc : client.classifier.RetriesOnlyFailures)
    (inner : Nat → EgressCall μ σ τ → Except CallError ρ) (c : EgressCall μ σ τ) {i : Nat}
    {sent : EgressCall μ σ τ} {response : ρ}
    (handed : (i, sent) ∈ (client.make env payload inner c).handed)
    (good : inner i sent = .ok response) :
    (client.make env payload inner c).result = some (.ok response) := by
  cases c with
  | call path request =>
    simp only [make, RetryOutcome.translate_handed, List.mem_map] at handed
    obtain ⟨⟨j, request'⟩, handed, same⟩ := handed
    cases same
    simp only [make, RetryOutcome.translate, client.call_result_of_success hc handed good]
    rfl
  | callRaw request =>
    simp only [make, RetryOutcome.translate_handed, List.mem_map] at handed
    obtain ⟨⟨j, request'⟩, handed, same⟩ := handed
    cases same
    simp only [make, RetryOutcome.translate, client.callRaw_result_of_success hc handed good]
    rfl
  | callServerStream | callClientStream | callBidiStream =>
    exact forward_result_of_success inner handed good
  | callRawServerStream | callRawClientStream | callRawBidiStream =>
    exact forward_result_of_success inner handed good

end GrpcRetryClient

end GrpcEgress
