import GrpcEgress.Retry.Requests
import GrpcEgress.Interceptor.Reply

/-!
# Retried calls through interceptors

A retry client over an `InterceptedTransport`. Each attempt goes through the whole
chain again and starts from the caller's metadata, not from what the chain made of it
the time before. What an interceptor does may change from one attempt to the next, so
the chain of attempt `i` is `chains i`.

1. `replied_once`: one pass through a chain;
2. `attempts_send_callers_request`: every attempt of a run;
3. `timeout_reaches_headers`: a chain sees the timeout of the attempt, not the
   caller's, and may write it into a header.
-/

namespace GrpcEgress

open InterceptedTransport GrpcRetryClient

/-- The passes through an intercepted client that a run makes, in order. -/
def RetryOutcome.passes {ε ρ ρ' : Type} (r : RetryOutcome ε ρ)
    (through : Nat → ε → Intercepted ε ρ') : List (Nat × Intercepted ε ρ') :=
  r.handed.map fun entry => (entry.1, through entry.1 entry.2)

/-- A pass that runs the chain once, from the given options: every `before_call` once,
and then one request with the options that they made; or the `before_call`s up to one
that fails, and no request. -/
structure OnceThrough {ε ρ : Type} (rules : MetadataRules) (chain : GrpcEgressInterceptorChain)
    (path : String) (send : CallOptions → ε) (options : CallOptions) (out : Intercepted ε ρ) :
    Prop where
  sent : ∀ o, optionsSent rules chain path options = .ok o →
    out.log.filterMap Happening.asBefore = List.range chain.length ∧
    out.log.filterMap Happening.asSent = [send o]
  refused : ∀ e, optionsSent rules chain path options = .error e →
    out.result = .error e ∧ out.log.filterMap Happening.asSent = [] ∧
    ∃ n < chain.length, out.log.filterMap Happening.asBefore = List.range (n + 1)

section

variable {ε ρ : Type} {rules : MetadataRules} {chain : GrpcEgressInterceptorChain}

theorem replied_once (path : String) (kind : CallKind) (send : CallOptions → ε)
    (inner : ε → Except CallError (CallResponse ρ)) (options : CallOptions) :
    OnceThrough rules chain path send options
      (replied rules chain ⟨path, kind⟩ send inner options) := by
  have faithful : Faithful rules chain ⟨path, kind⟩ send inner options
    (replied rules chain ⟨path, kind⟩ send inner options) := replied_faithful
  refine ⟨faithful.sent, fun e refused => ?_⟩
  obtain ⟨failed, n, below, -, log⟩ := faithful.refused e refused
  rw [log, List.filterMap_map, List.filterMap_map]
  refine ⟨failed, filterMap_nothing (fun _ => rfl) _, n, below, ?_⟩
  exact List.filterMap_some

end

/-- The passes of a run, from its attempts. -/
theorem RetryOutcome.passes_of_handed {ε ρ ρ' : Type} {r : RetryOutcome ε ρ}
    {call : Nat × Option Duration → ε} (through : Nat → ε → Intercepted ε ρ')
    (handed : r.handed = r.attempts.map fun made => (made.1, call made)) :
    r.passes through = r.attempts.map fun made => (made.1, through made.1 (call made)) := by
  simp only [passes, handed, List.map_map, Function.comp_def]

/-- Every attempt of a call hands the wrapped client the caller's own call with the
timeout of the attempt. Through interceptors each attempt is one pass: the chain runs
once, on the caller's metadata and the attempt's timeout, and its options are what is
sent. A typed message that cannot be encoded fails before any attempt when more than
one is allowed. -/
theorem attempts_send_callers_request {υ μ σ τ ρ : Type} (client : GrpcRetryClient υ)
    (env : Surroundings υ) (payload : Payload μ) (roundTrips : payload.RoundTrips) :
    (∀ (inner : Nat → EgressCall μ σ τ → Except CallError ρ) (c : EgressCall μ σ τ),
      let run := client.make env payload inner c
      run.handed = run.attempts.map fun made =>
        (made.1, c.withOptions ⟨made.2, c.options.metadata⟩)) ∧
    (∀ (rules : MetadataRules) (chains : Nat → GrpcEgressInterceptorChain) (path : String)
      (bare : Nat → CallRequest μ → Except CallError (CallResponse ρ)) (request : CallRequest μ),
      let through i sent := InterceptedTransport.call rules (chains i) path (bare i) sent
      let run := client.call env payload path (fun i sent => (through i sent).result) request
      let own (made : Nat × Option Duration) := ⟨made.2, request.options.metadata⟩
      run.passes through = run.attempts.map (fun made =>
        (made.1, through made.1 ⟨request.message, own made⟩)) ∧
      ∀ made ∈ run.attempts, OnceThrough rules (chains made.1) path
        (fun options => ⟨request.message, options⟩) (own made)
        (through made.1 ⟨request.message, own made⟩)) ∧
    (∀ (rules : MetadataRules) (chains : Nat → GrpcEgressInterceptorChain)
      (bare : Nat → CallRawRequest → Except CallError (CallResponse ρ)) (request : CallRawRequest),
      let through i sent := InterceptedTransport.callRaw rules (chains i) (bare i) sent
      let run := client.callRaw env (fun i sent => (through i sent).result) request
      let own (made : Nat × Option Duration) := ⟨made.2, request.options.metadata⟩
      run.passes through = run.attempts.map (fun made =>
        (made.1, through made.1 ⟨request.path, request.message, own made⟩)) ∧
      ∀ made ∈ run.attempts, OnceThrough rules (chains made.1) request.path
        (fun options => ⟨request.path, request.message, options⟩) (own made)
        (through made.1 ⟨request.path, request.message, own made⟩)) ∧
    (∀ (inner : Nat → EgressCall μ σ τ → Except CallError ρ) (path : String)
      (request : CallRequest μ) (reason : String), 2 ≤ client.config.maxAttempts.toNat →
      payload.encode request.message = .error reason →
      client.make env payload inner (.call path request) =
        ⟨[], some (.error (.encode reason))⟩) := by
  refine ⟨fun inner c => client.make_handed env roundTrips inner c, ?_, ?_, ?_⟩
  · intro rules chains path bare request through run own
    refine ⟨RetryOutcome.passes_of_handed through
      (client.call_handed env roundTrips path _ request), ?_⟩
    intro made _
    exact replied_once path .unary _ _ _
  · intro rules chains bare request through run own
    refine ⟨RetryOutcome.passes_of_handed through (client.callRaw_handed env _ request), ?_⟩
    intro made _
    exact replied_once request.path .unary _ _ _
  · intro inner path request reason more refused
    exact client.make_of_encode_error env inner more refused

/-! ## An interceptor that reads the timeout -/

theorem u32_three_ne_zero : (3 : UInt32) ≠ 0 := by decide

namespace DeadlineHeader

/-- Ten seconds for a call, one of which has passed when the attempt is made. -/
def request : CallRawRequest := ⟨"/test.Peer/Echo", [], ⟨some (Duration.fromSecs 10), .empty⟩⟩

@[inherit_doc request]
def env : Surroundings Unit :=
  ⟨fun _ => Duration.fromSecs 1, fun _ => Duration.fromSecs 1, fun _ => ()⟩

/-- Metadata is never refused. -/
def rules : MetadataRules := ⟨fun _ _ => none, fun _ _ => none, fun _ => none⟩

/-- Writes whether the call has all of its ten seconds. -/
def chain : GrpcEgressInterceptorChain :=
  [⟨.look fun call =>
      .addHeader "x-deadline" (if call.timeout = some (Duration.fromSecs 10) then "all" else "less")
        .done,
    fun _ => .ok ()⟩]

/-- The one attempt of the call. -/
def through (sent : CallRawRequest) : Intercepted CallRawRequest (CallResponse Unit) :=
  InterceptedTransport.callRaw rules chain
    (fun _ => .ok ⟨(), Metadata.empty.view, Metadata.empty.view⟩) sent

end DeadlineHeader

open DeadlineHeader in
/-- The metadata that an attempt sends is not that of the chain on the caller's own
options: the chain is shown what is left of the timeout. -/
theorem timeout_reaches_headers :
    let run := (OneAttempt.client 1 u32_one_ne_zero).callRaw env
      (fun _ sent => (through sent).result) request
    (run.passes fun _ => through).map (fun pass =>
        (pass.2.log.filterMap Happening.asSent).map fun sent => sent.options.metadata.text) =
      [[[("x-deadline", "less")]]] ∧
    (optionsSent rules chain request.path request.options).map (fun o => o.metadata.text) =
      .ok [("x-deadline", "all")] := by
  decide

theorem OneAttempt.empty_roundTrips : OneAttempt.empty.RoundTrips := fun _ _ _ => rfl

namespace ThirdAnswered

theorem payload_roundTrips : payload.RoundTrips := by
  intro message encoded is
  cases is
  rfl

/-- Marks the first attempt of a call, and the later ones. -/
def chains (i : Nat) : GrpcEgressInterceptorChain :=
  [⟨.addHeader "attempt" (if i = 0 then "first" else "later") .done, fun _ => .ok ()⟩]

/-- An attempt of a typed call through such a chain, to the peer that answers the third one. -/
def through (i : Nat) (sent : CallRequest UInt8) : Intercepted (CallRequest UInt8)
    (CallResponse UInt8) :=
  InterceptedTransport.call DeadlineHeader.rules (chains i) "/test.Peer/Echo"
    (fun sent => (inner i sent).map fun message =>
      ⟨message, Metadata.empty.view, Metadata.empty.view⟩) sent

end ThirdAnswered

open ThirdAnswered in
/-- `attempts_send_callers_request` for a call with a header, answered at the third attempt:
each attempt sends the caller's message and header, and one mark of its own. -/
theorem attempts_send_callers_request_third :
    let run := (client 3 u32_three_ne_zero).call ticking payload "/test.Peer/Echo"
      (fun i sent => (through i sent).result) request
    run.attempts = [(0, some (.fromSecs 9)), (1, some (.fromSecs 7)), (2, some (.fromSecs 5))] ∧
    ∀ made ∈ run.attempts, ∃ pass ∈ run.passes through, pass.1 = made.1 ∧
      pass.2.log.filterMap Happening.asSent = [⟨7, ⟨made.2,
        ⟨[("k", "v"), ("attempt", if made.1 = 0 then "first" else "later")], []⟩⟩⟩] := by
  intro run
  obtain ⟨passes, once⟩ := (attempts_send_callers_request (σ := Unit) (τ := Unit) (ρ := UInt8)
    (client 3 u32_three_ne_zero) ticking payload payload_roundTrips).2.1 DeadlineHeader.rules
    chains "/test.Peer/Echo" (fun i sent => (inner i sent).map fun message =>
      ⟨message, Metadata.empty.view, Metadata.empty.view⟩) request
  refine ⟨by decide, fun made member => ⟨(made.1, through made.1
    ⟨request.message, ⟨made.2, request.options.metadata⟩⟩), ?_, rfl, ?_⟩⟩
  · exact passes ▸ List.mem_map_of_mem member
  · exact ((once made member).sent _ rfl).2

end GrpcEgress
