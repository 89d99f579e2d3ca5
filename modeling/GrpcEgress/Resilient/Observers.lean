import GrpcEgress.Resilient.Requests

/-!
# What interceptors are told of a retried call

A retry client over an `InterceptedTransport`, as in `Resilient.Requests`. Each attempt
is one pass through the chain, and an observer keeps its place in the chain while what
the interceptors do may change from one attempt to the next.

1. `runWithRetry_decided`: every attempt but the last was to be retried, and the answer of
   the last is that of the run;
2. `replied_noticed`: what an observer is told of one pass;
3. `observers_of_retried_call`: what it is told of a call.
-/

namespace GrpcEgress

/-! ## The attempts of a run -/

/-- A run that gives the answer of its last attempt, and the ones before it were to be
retried; or that fails with no attempt at all. -/
inductive RetryOutcome.Decided {ε ρ : Type} (classifier : RetryClassifier)
    (answer : Nat × Option Duration → Except CallError ρ) (r : RetryOutcome ε ρ) : Prop
  | unmade {e : CallError} : r.attempts = [] → r.result = some (.error e) →
      Decided classifier answer r
  | made {before : List (Nat × Option Duration)} {last : Nat × Option Duration} :
      r.attempts = before ++ [last] →
      (∀ made ∈ before, (classifier.classify (forget (answer made))).retries = true) →
      r.result = some (answer last) → Decided classifier answer r

namespace RetryInput

variable {υ ε ρ : Type} {c : RetryInput υ ε ρ}

/-- The attempts of a run, each but the last of which was followed by another. -/
theorem stays_before_last (c : RetryInput υ ε ρ) : ∃ n,
    c.runWithRetry.attempts = (List.range n).map (fun i => (i, c.timeoutAt i)) ∧
    ∀ j, j + 1 < n → c.stays j := by
  have ended := c.runWithRetry_ending
  generalize c.runWithRetry = r at ended
  cases ended with
  | exhausted stayed =>
    exact ⟨_, c.eventsBefore_attempts _, fun j below => stayed j (Nat.lt_of_succ_lt below)⟩
  | spent _ stayed _ =>
    exact ⟨_, c.eventsBefore_attempts _, fun j below => stayed j (Nat.lt_of_succ_lt below)⟩
  | @stopped n _ stayed _ _ =>
    refine ⟨n + 1, ?_, fun j below => stayed j (Nat.lt_of_succ_lt_succ below)⟩
    rw [RetryOutcome.attempts, List.filterMap_append, eventsBefore_attempts, List.range_succ,
      List.map_append]
    rfl

theorem runWithRetry_decided (hc : c.classifier.RetriesOnlyFailures) :
    c.runWithRetry.Decided c.classifier fun made => (c.attempt made.1 made.2).result := by
  obtain ⟨n, attempts, stayed⟩ := c.stays_before_last
  have answered := c.runWithRetry_ending.result hc
  rw [attempts, List.length_map, List.length_range] at answered
  cases n with
  | zero => exact .unmade attempts answered
  | succ n =>
    rw [List.range_succ, List.map_append] at attempts
    refine .made attempts (fun made member => ?_) answered
    obtain ⟨j, below, rfl⟩ := List.mem_map.mp member
    exact (retries_of_goesOn (stayed j (Nat.succ_lt_succ (List.mem_range.mp below))).2).1

end RetryInput

namespace GrpcRetryClient

variable {υ μ ρ : Type} (client : GrpcRetryClient υ) (env : Surroundings υ) {payload : Payload μ}
  (hc : client.classifier.RetriesOnlyFailures)
include hc

theorem callRaw_decided (inner : Nat → CallRawRequest → Except CallError ρ)
    (request : CallRawRequest) :
    (client.callRaw env inner request).Decided client.classifier fun made =>
      inner made.1 ⟨request.path, request.message, ⟨made.2, request.options.metadata⟩⟩ :=
  @RetryInput.runWithRetry_decided _ _ _ (client.rawInput env inner request) hc

theorem call_decided (roundTrips : payload.RoundTrips) (path : String)
    (inner : Nat → CallRequest μ → Except CallError ρ) (request : CallRequest μ) :
    (client.call env payload path inner request).Decided client.classifier fun made =>
      inner made.1 ⟨request.message, ⟨made.2, request.options.metadata⟩⟩ := by
  unfold call
  split
  · have alone : (⟨[.attempt 0 request.options.timeout [request]], some (inner 0 request)⟩ :
        RetryOutcome (CallRequest μ) ρ).attempts = [] ++ [(0, request.options.timeout)] := rfl
    exact .made alone (fun _ member => absurd member List.not_mem_nil) rfl
  · split
    · exact .unmade rfl rfl
    · next encoded encoding =>
      have same : (fun made : Nat × Option Duration =>
          inner made.1 ⟨request.message, ⟨made.2, request.options.metadata⟩⟩) =
          fun made => (typedAttempt payload inner request encoded made.1 made.2).result :=
        funext fun made =>
          (congrArg Attempt.result
            (typedAttempt_of_decode (roundTrips _ _ encoding) made.1 made.2)).symm
      rw [same]
      exact @RetryInput.runWithRetry_decided _ _ _ (client.retryInput env path
        request.options.timeout (typedAttempt payload inner request encoded)) hc

end GrpcRetryClient

/-! ## One pass -/

open InterceptedTransport

section

variable {ε ρ : Type} {rules : MetadataRules} {chain : GrpcEgressInterceptorChain} {k : Nat}

/-- What the interceptor at `k` is told of a pass: that it started and how it ended, if it
was sent, and else nothing. -/
inductive InterceptedTransport.Noticed (rules : MetadataRules) (chain : GrpcEgressInterceptorChain)
    (k : Nat) (call : CallIdentity) (out : Intercepted ε (CallResponse ρ)) : Prop
  | sent {ending : CallEvent Metadata} {request : ε} :
      toldTo rules chain k out.log = [.started call, ending] → Ends rules call out.result ending →
      out.log.filterMap Happening.asSent = [request] → Noticed rules chain k call out
  | refused {e : CallError} : toldTo rules chain k out.log = [] → out.result = .error e →
      out.log.filterMap Happening.asSent = [] → Noticed rules chain k call out

theorem replied_noticed (member : k < chain.length) (call : CallIdentity) (send : CallOptions → ε)
    (inner : ε → Except CallError (CallResponse ρ)) (options : CallOptions) :
    Noticed rules chain k call (replied rules chain call send inner options) := by
  have faithful : Faithful rules chain call send inner options
    (replied rules chain call send inner options) := replied_faithful
  cases ran : optionsSent rules chain call.path options with
  | error e =>
    obtain ⟨failed, n, -, -, log⟩ := faithful.refused e ran
    refine .refused ?_ failed ?_
    · rw [toldTo_eq member, log, reports_befores]
      rfl
    · rw [log, List.filterMap_map]
      exact filterMap_nothing (fun _ => rfl) _
  | ok o =>
    obtain ⟨ending, told, ends⟩ := faithful.observed k member o ran
    exact .sent told ends (faithful.sent o ran).2

end

/-! ## The passes of a call -/

section

variable {ε ρ : Type}

/-- What the interceptor at `k` is told of a run, in order. -/
def RetryOutcome.told {ρ' : Type} (r : RetryOutcome ε ρ) (rules : MetadataRules)
    (chains : Nat → GrpcEgressInterceptorChain) (through : Nat → ε → Intercepted ε ρ') (k : Nat) :
    List (CallEvent Metadata) :=
  (r.passes through).flatMap fun pass => toldTo rules (chains pass.1) k pass.2.log

/-- The requests that the wrapped client of the interceptors is sent. -/
def RetryOutcome.sentThrough {ρ' : Type} (r : RetryOutcome ε ρ)
    (through : Nat → ε → Intercepted ε ρ') : List ε :=
  (r.passes through).flatMap fun pass => pass.2.log.filterMap Happening.asSent

/-- A call as it is told: each request that is sent starts and ends before the next one
starts. `failures` are those that were to be retried, in order, and `last` is how the last
attempt ended, if it was sent: with the answer of the call. -/
structure Account (classifier : RetryClassifier) (rules : MetadataRules) (call : CallIdentity)
    (told : List (CallEvent Metadata)) (sent : List ε)
    (result : Option (Except CallError (CallResponse ρ))) (failures : List CallError)
    (last : Option (CallEvent Metadata)) : Prop where
  events : told = (failures.map (CallEvent.failed call) ++ last.toList).flatMap fun ending =>
    [.started call, ending]
  requests : sent.length = failures.length + last.toList.length
  retried : ∀ e ∈ failures, (classifier.classify (.error e)).retries = true
  ends : ∀ ending, last = some ending → ∃ answer, result = some answer ∧
    Ends rules call answer ending
  unsent : last = none → ∃ e, result = some (.error e)

variable {classifier : RetryClassifier} {rules : MetadataRules} {call : CallIdentity}
  {told : List (CallEvent Metadata)} {sent : List ε}
  {result : Option (Except CallError (CallResponse ρ))} {failures : List CallError}
  {last : Option (CallEvent Metadata)}

/-- Observers are told that a call completed iff its caller has the response. -/
theorem Account.completed_iff
    (account : Account classifier rules call told sent result failures last) :
    (∃ headers trailers, CallEvent.completed call headers trailers ∈ told) ↔
      ∃ response, result = some (.ok response) := by
  rw [account.events]
  constructor
  · rintro ⟨headers, trailers, member⟩
    obtain ⟨ending, among, pair⟩ := List.mem_flatMap.mp member
    have is : ending = .completed call headers trailers := by
      rcases List.mem_cons.mp pair with start | one
      · cases start
      · exact (List.mem_singleton.mp one).symm
    rcases List.mem_append.mp among with failed | final
    · obtain ⟨e, -, same⟩ := List.mem_map.mp failed
      rw [is] at same
      cases same
    · obtain ⟨answer, answered, ends⟩ := account.ends ending (Option.mem_toList.mp final)
      cases answer with
      | ok response => exact ⟨response, answered⟩
      | error e =>
        rw [is] at ends
        cases ends
  · rintro ⟨response, answered⟩
    cases final : last with
    | none =>
      obtain ⟨e, failed⟩ := account.unsent final
      rw [answered] at failed
      cases failed
    | some ending =>
      obtain ⟨answer, same, ends⟩ := account.ends ending final
      rw [answered] at same
      cases same
      obtain ⟨reply, -, is⟩ := ends
      refine ⟨some reply.headers, reply.trailers, List.mem_flatMap.mpr ⟨ending, ?_, ?_⟩⟩
      · exact List.mem_append_right _ List.mem_cons_self
      · rw [is]
        exact List.mem_cons_of_mem _ List.mem_cons_self

section

variable {chains : Nat → GrpcEgressInterceptorChain} {k : Nat}
  {through : Nat → ε → Intercepted ε (CallResponse ρ)} {request : Nat × Option Duration → ε}
  (hc : classifier.RetriesOnlyFailures)
  (noticed : ∀ made, Noticed rules (chains made.1) k call (through made.1 (request made)))
include hc noticed

/-- The attempts that were to be retried: an observer is told of the failures of those
that were sent. -/
theorem failures_of_retried {attempts : List (Nat × Option Duration)}
    (retried : ∀ made ∈ attempts,
      (classifier.classify (forget (through made.1 (request made)).result)).retries = true) :
    ∃ failures : List CallError,
      (attempts.flatMap fun made =>
          toldTo rules (chains made.1) k (through made.1 (request made)).log) =
        ((failures.map (CallEvent.failed call)).flatMap fun ending => [.started call, ending]) ∧
      (attempts.flatMap fun made =>
        (through made.1 (request made)).log.filterMap Happening.asSent).length = failures.length ∧
      ∀ e ∈ failures, (classifier.classify (.error e)).retries = true := by
  induction attempts with
  | nil => exact ⟨[], rfl, rfl, fun _ member => absurd member List.not_mem_nil⟩
  | cons made rest ih =>
    obtain ⟨now, later⟩ := List.forall_mem_cons.mp retried
    obtain ⟨failures, events, requests, again⟩ := ih later
    obtain ⟨e, failed⟩ : ∃ e, (through made.1 (request made)).result = .error e := by
      cases answered : (through made.1 (request made)).result with
      | error e => exact ⟨e, rfl⟩
      | ok response =>
        rw [answered] at now
        exact absurd ((hc ()).symm.trans now) Bool.false_ne_true
    rw [failed] at now
    simp only [List.flatMap_cons, List.length_append, events, requests]
    cases noticed made with
    | sent told ends sent =>
      rw [failed] at ends
      refine ⟨e :: failures, ?_, ?_, List.forall_mem_cons.mpr ⟨now, again⟩⟩
      · rw [told, ends]
        rfl
      · rw [sent]
        exact Nat.add_comm _ _
    | refused untold _ unsent =>
      refine ⟨failures, ?_, ?_, again⟩
      · rw [untold]
        rfl
      · rw [unsent]
        exact Nat.zero_add _

theorem account_of_decided {r : RetryOutcome ε (CallResponse ρ)}
    (passes : r.passes through =
      r.attempts.map fun made => (made.1, through made.1 (request made)))
    (decided : r.Decided classifier fun made => (through made.1 (request made)).result) :
    ∃ failures last, Account classifier rules call (r.told rules chains through k)
      (r.sentThrough through) r.result failures last := by
  unfold RetryOutcome.told RetryOutcome.sentThrough
  rw [passes, List.flatMap_map, List.flatMap_map]
  cases decided with
  | @unmade e unattempted failed =>
    rw [unattempted]
    refine ⟨[], none, rfl, rfl, fun _ member => absurd member List.not_mem_nil, ?_, ?_⟩
    · intro ending absent
      cases absent
    · exact fun _ => ⟨e, failed⟩
  | @made before last attempts retried answered =>
    obtain ⟨failures, events, requests, again⟩ := failures_of_retried hc noticed retried
    rw [attempts, List.flatMap_append, List.flatMap_append, events]
    cases noticed last with
    | @sent ending _ told ends sent =>
      refine ⟨failures, some ending, ?_, ?_, again, ?_, ?_⟩
      · rw [List.flatMap_append, List.flatMap_singleton, told]
        rfl
      · rw [List.length_append, requests, List.flatMap_singleton, sent]
        rfl
      · intro ending is
        cases is
        exact ⟨_, answered, ends⟩
      · intro absent
        cases absent
    | @refused e untold failed unsent =>
      refine ⟨failures, none, ?_, ?_, again, ?_, ?_⟩
      · rw [List.flatMap_append, List.flatMap_singleton, untold]
        rfl
      · rw [List.length_append, requests, List.flatMap_singleton, unsent]
        rfl
      · intro ending absent
        cases absent
      · exact fun _ => ⟨e, answered.trans (congrArg some failed)⟩

end

end

open GrpcRetryClient in
/-- What an observer is told of a retried call: each request that is sent started once and
ended once, one after the other. All but the last one failed with a failure that is
retried, and the last one ended as the call did, if the last attempt was sent. So it is
told that the call completed at most once, at the end, and exactly when the caller has the
response. An attempt that the chain does not let through is not told. -/
theorem observers_of_retried_call {υ μ ρ : Type} (client : GrpcRetryClient υ)
    (env : Surroundings υ) (retriesFailures : client.classifier.RetriesOnlyFailures)
    (rules : MetadataRules) (chains : Nat → GrpcEgressInterceptorChain) (k : Nat)
    (member : ∀ i, k < (chains i).length) :
    (∀ (payload : Payload μ) (path : String)
      (bare : Nat → CallRequest μ → Except CallError (CallResponse ρ)) (request : CallRequest μ),
      payload.RoundTrips →
      let through i sent := InterceptedTransport.call rules (chains i) path (bare i) sent
      let run := client.call env payload path (fun i sent => (through i sent).result) request
      (∃ failures last, Account client.classifier rules ⟨path, .unary⟩
        (run.told rules chains through k) (run.sentThrough through) run.result failures last) ∧
      ((∃ headers trailers,
          CallEvent.completed ⟨path, .unary⟩ headers trailers ∈ run.told rules chains through k) ↔
        ∃ response, run.result = some (.ok response))) ∧
    ∀ (bare : Nat → CallRawRequest → Except CallError (CallResponse ρ))
      (request : CallRawRequest),
      let through i sent := InterceptedTransport.callRaw rules (chains i) (bare i) sent
      let run := client.callRaw env (fun i sent => (through i sent).result) request
      (∃ failures last, Account client.classifier rules ⟨request.path, .unary⟩
        (run.told rules chains through k) (run.sentThrough through) run.result failures last) ∧
      ((∃ headers trailers, CallEvent.completed ⟨request.path, .unary⟩ headers trailers ∈
          run.told rules chains through k) ↔
        ∃ response, run.result = some (.ok response)) := by
  constructor
  · intro payload path bare request roundTrips through run
    let again (made : Nat × Option Duration) : CallRequest μ :=
      ⟨request.message, ⟨made.2, request.options.metadata⟩⟩
    have passes : run.passes through =
        run.attempts.map fun made => (made.1, through made.1 (again made)) :=
      RetryOutcome.passes_of_handed through (client.call_handed env roundTrips path _ request)
    have decided : run.Decided client.classifier fun made =>
        (through made.1 (again made)).result :=
      client.call_decided env retriesFailures roundTrips path
        (fun i sent => (through i sent).result) request
    have noticed : ∀ made, Noticed rules (chains made.1) k ⟨path, .unary⟩
        (through made.1 (again made)) := fun made => replied_noticed (member made.1) _ _ _ _
    obtain ⟨failures, last, account⟩ := account_of_decided retriesFailures noticed passes decided
    exact ⟨⟨failures, last, account⟩, account.completed_iff⟩
  · intro bare request through run
    let again (made : Nat × Option Duration) : CallRawRequest :=
      ⟨request.path, request.message, ⟨made.2, request.options.metadata⟩⟩
    have passes : run.passes through =
        run.attempts.map fun made => (made.1, through made.1 (again made)) :=
      RetryOutcome.passes_of_handed through (client.callRaw_handed env _ request)
    have decided : run.Decided client.classifier fun made =>
        (through made.1 (again made)).result :=
      client.callRaw_decided env retriesFailures (fun i sent => (through i sent).result) request
    have noticed : ∀ made, Noticed rules (chains made.1) k ⟨request.path, .unary⟩
        (through made.1 (again made)) := fun made => replied_noticed (member made.1) _ _ _ _
    obtain ⟨failures, last, account⟩ := account_of_decided retriesFailures noticed passes decided
    exact ⟨⟨failures, last, account⟩, account.completed_iff⟩

namespace ThirdTime

/-- Writes down nothing, and takes every reply. -/
def chains (_ : Nat) : GrpcEgressInterceptorChain := [⟨.done (.ok ()), fun _ => .ok ()⟩]

/-- A peer that is there at the third attempt. -/
def bare (i : Nat) (_ : CallRequest Unit) : Except CallError (CallResponse Unit) :=
  if i < 2 then .error (.transport "/test.Peer/Echo" .unavailable "")
  else .ok ⟨(), Metadata.empty.view, Metadata.empty.view⟩

/-- A call with no timeout. -/
def request : CallRequest Unit := ⟨(), ⟨none, .empty⟩⟩

/-- The run of that call. -/
def run : RetryOutcome (CallRequest Unit) (CallResponse Unit) :=
  (OneAttempt.client 3 u32_three_ne_zero).call OneAttempt.stopped OneAttempt.empty
    "/test.Peer/Echo" (fun i sent => (InterceptedTransport.call DeadlineHeader.rules (chains i)
      "/test.Peer/Echo" (bare i) sent).result) request

end ThirdTime

open ThirdTime in
/-- `observers_of_retried_call` for a peer that answers the third attempt. -/
theorem observers_of_retried_call_third :
    ∃ headers trailers, CallEvent.completed ⟨"/test.Peer/Echo", .unary⟩ headers trailers ∈
      run.told DeadlineHeader.rules chains (fun i sent => InterceptedTransport.call
        DeadlineHeader.rules (chains i) "/test.Peer/Echo" (bare i) sent) 0 :=
  ((@observers_of_retried_call Unit Unit Unit (OneAttempt.client 3 u32_three_ne_zero)
    OneAttempt.stopped stdClassify_ok DeadlineHeader.rules chains 0 fun _ => Nat.one_pos).1
    OneAttempt.empty "/test.Peer/Echo" bare request OneAttempt.empty_roundTrips).2.mpr
    ⟨⟨(), Metadata.empty.view, Metadata.empty.view⟩, by decide⟩

end GrpcEgress
