import GrpcEgress.Interceptor.Chain

/-!
# Intercepted calls with one reply

The unary and client-streaming calls of `InterceptedTransport`, typed and raw. The
four repeat one text, `replied`, with their own path, kind and request. A call runs
to its end here.

`reference` is the order of what can go wrong, as one computation that stops at the
first failure: the `before_call`s, the wrapped client, the two copies of what the
peer sent, the `after_call`s. `replied_faithful` is that a call answers with it and
shows the observers nothing but a `Started` and one terminal event;
`intercepted_calls_faithful` says so of the four calls.
-/

namespace GrpcEgress

open GrpcEgressInterceptorChain PatternEgressInterceptor

/-- A response with one message, as the wrapped client returned it. -/
structure CallResponse (ρ : Type) where
  message : ρ
  headers : MetadataView
  trailers : MetadataView
deriving DecidableEq

/-- An intercepted call: its trace and its result. -/
structure Intercepted (ε ρ : Type) where
  log : List (Happening ε)
  result : Except CallError ρ
deriving DecidableEq

namespace InterceptedTransport

variable {ε ρ μ σ : Type} (rules : MetadataRules) (chain : GrpcEgressInterceptorChain)

/-- `run_before`. -/
def runBefore (call : CallIdentity) (options : CallOptions) :
    List (Happening ε) × Except CallError CallOptions :=
  match PatternEgressInterceptor.beforeCall rules chain call options with
  | (log, .error e) => (log, .error e)
  | (log, .ok options) => (log ++ [.reported (.started call)], .ok options)

/-- A failed copy of the peer's metadata. -/
def copyFailed (path : String) (e : String) : CallError := .transport path .internal e

/-- `run_after_egress`. -/
def runAfterEgress (path : String) (headers trailers : MetadataView) :
    List (Happening ε) × Except CallError Unit :=
  if chain.isEmpty then ([], .ok ())
  else
    match rules.copy headers with
    | .error e => ([], .error (copyFailed path e))
    | .ok headers =>
      match rules.copy trailers with
      | .error e => ([], .error (copyFailed path e))
      | .ok trailers => chain.runAfter ⟨path, headers, trailers⟩

/-- `run_after`. -/
def runAfter (call : CallIdentity) (headers trailers : MetadataView) :
    List (Happening ε) × Except CallError Unit :=
  match runAfterEgress rules chain call.path headers trailers with
  | (log, .error e) => (log ++ [.reported (.failed call e)], .error e)
  | (log, .ok ()) => (log ++ [.reported (.completed call (some headers) trailers)], .ok ())

/-- The text of the four calls: `send` builds the request of the wrapped client from
the options. -/
def replied (call : CallIdentity) (send : CallOptions → ε)
    (inner : ε → Except CallError (CallResponse ρ)) (options : CallOptions) :
    Intercepted ε (CallResponse ρ) :=
  match runBefore rules chain call options with
  | (log, .error e) => ⟨log, .error e⟩
  | (log, .ok options) =>
    match inner (send options) with
    | .error e => ⟨log ++ [.sent (send options), .reported (.failed call e)], .error e⟩
    | .ok response =>
      let ran := runAfter rules chain call response.headers response.trailers
      ⟨log ++ .sent (send options) :: ran.1, ran.2.map fun _ => response⟩

/-- `call` of the method at `path`. -/
def call (path : String) (inner : CallRequest μ → Except CallError (CallResponse ρ))
    (request : CallRequest μ) : Intercepted (CallRequest μ) (CallResponse ρ) :=
  replied rules chain ⟨path, .unary⟩ (fun options => ⟨request.message, options⟩) inner
    request.options

/-- `call_client_stream` of the method at `path`. -/
def callClientStream (path : String)
    (inner : CallClientStreamRequest σ → Except CallError (CallResponse ρ))
    (request : CallClientStreamRequest σ) :
    Intercepted (CallClientStreamRequest σ) (CallResponse ρ) :=
  replied rules chain ⟨path, .clientStream⟩ (fun options => ⟨request.requests, options⟩) inner
    request.options

/-- `call_raw`. -/
def callRaw (inner : CallRawRequest → Except CallError (CallResponse ρ))
    (request : CallRawRequest) : Intercepted CallRawRequest (CallResponse ρ) :=
  replied rules chain ⟨request.path, .unary⟩
    (fun options => ⟨request.path, request.message, options⟩) inner request.options

/-- `call_raw_client_stream`. -/
def callRawClientStream
    (inner : CallRawClientStreamRequest σ → Except CallError (CallResponse ρ))
    (request : CallRawClientStreamRequest σ) :
    Intercepted (CallRawClientStreamRequest σ) (CallResponse ρ) :=
  replied rules chain ⟨request.path, .clientStream⟩
    (fun options => ⟨request.path, request.requests, options⟩) inner request.options

/-! ## What a call should come to -/

/-- What a `before_call` leaves of a call, unless it fails. -/
def hooked (call : PendingCall) (interceptor : GrpcEgressInterceptor) :
    Except CallError PendingCall :=
  let ran := interceptor.beforeCall.run rules call
  ran.1.map fun _ => ran.2

/-- The options a call is sent with: the `before_call`s, in registration order, on
the caller's options. -/
def optionsSent (path : String) (options : CallOptions) : Except CallError CallOptions :=
  (chain.foldlM (hooked rules) ⟨path, options.timeout, options.metadata⟩).map fun call =>
    ⟨call.timeout, call.metadata⟩

/-- A reply of the peer whose headers and trailers can be copied, and its copy. -/
def replyOf (path : String) (response : CallResponse ρ) : Except CallError InboundReply :=
  match rules.copied response.headers with
  | .error e => .error (.transport path .internal e)
  | .ok headers =>
    match rules.copied response.trailers with
    | .error e => .error (.transport path .internal e)
    | .ok trailers => .ok ⟨path, headers, trailers⟩

/-- The first failure of a call, or its response. -/
def reference (path : String) (send : CallOptions → ε)
    (inner : ε → Except CallError (CallResponse ρ)) (options : CallOptions) :
    Except CallError (CallResponse ρ) := do
  let sent ← optionsSent rules chain path options
  let response ← inner (send sent)
  let reply ← replyOf rules path response
  let () ← chain.foldlM (fun _ interceptor => interceptor.afterCall reply) ()
  pure response

/-- The event that ends a call: `Completed` with what the peer sent, or `Failed` with
the error that is returned. -/
def Ends (call : CallIdentity) : Except CallError (CallResponse ρ) → CallEvent Metadata → Prop
  | .ok response, event => ∃ reply, replyOf rules call.path response = .ok reply ∧
      event = .completed call (some reply.headers) reply.trailers
  | .error e, event => event = .failed call e

/-- What a chain does to a call with one reply. -/
structure Faithful (call : CallIdentity) (send : CallOptions → ε)
    (inner : ε → Except CallError (CallResponse ρ)) (options : CallOptions)
    (out : Intercepted ε (CallResponse ρ)) : Prop where
  /-- With no interceptor the call is forwarded as it is. -/
  bare : chain = [] → out.result = inner (send options) ∧
    out.log.filterMap Happening.asSent = [send options] ∧ ∀ k, toldTo rules chain k out.log = []
  /-- A `before_call` that fails ends the call: the later ones do not run, nothing is
  sent and no event is reported. -/
  refused : ∀ e, optionsSent rules chain call.path options = .error e →
    out.result = .error e ∧ ∃ n < chain.length,
      Walk.FailsAt (hooked rules) ⟨call.path, options.timeout, options.metadata⟩ chain n e ∧
      out.log = (List.range (n + 1)).map .before
  /-- Else every `before_call` runs and the call is sent, once, with their options. -/
  sent : ∀ o, optionsSent rules chain call.path options = .ok o →
    out.log.filterMap Happening.asBefore = List.range chain.length ∧
    out.log.filterMap Happening.asSent = [send o]
  /-- The result is the response, or the first error in the order of `reference`. -/
  result : chain ≠ [] → out.result = reference rules chain call.path send inner options
  /-- The response comes back unchanged iff the wrapped client returned it, its
  metadata can be copied and every `after_call` accepts it. -/
  accepted : chain ≠ [] → ∀ response, out.result = .ok response ↔
    ∃ o reply, optionsSent rules chain call.path options = .ok o ∧
      inner (send o) = .ok response ∧ replyOf rules call.path response = .ok reply ∧
      ∀ interceptor ∈ chain, interceptor.afterCall reply = .ok ()
  /-- The `after_call`s run in order: none after a failed call, none after one that
  fails, and all of them when the call succeeds. -/
  afters : ∃ m ≤ chain.length, out.log.filterMap Happening.asAfter = List.range m ∧
    ((∃ response, out.result = .ok response) → m = chain.length) ∧
    ∀ k < m, ∃ o response reply, optionsSent rules chain call.path options = .ok o ∧
      inner (send o) = .ok response ∧ replyOf rules call.path response = .ok reply ∧
      ∀ interceptor ∈ chain.take k, interceptor.afterCall reply = .ok ()
  /-- Every interceptor is told that the call started and how it ended. -/
  observed : ∀ k < chain.length, ∀ o, optionsSent rules chain call.path options = .ok o →
    ∃ last, toldTo rules chain k out.log = [.started call, last] ∧ Ends rules call out.result last

/-! ## The two halves of a call -/

section

variable {rules : MetadataRules} {chain : GrpcEgressInterceptorChain} {call : CallIdentity}
  {send : CallOptions → ε} {inner : ε → Except CallError (CallResponse ρ)}
  {options : CallOptions}

theorem before_eq_hooked (rules : MetadataRules) : before rules = hooked rules := by
  funext call interceptor
  unfold before hooked
  rcases interceptor.beforeCall.run rules call with ⟨e | _, left⟩
  · rfl
  · rfl

/-- The options a call is sent with are those of the chain's own steps. -/
theorem optionsSent_eq (path : String) :
    optionsSent rules chain path options =
      (chain.foldlM (before rules) (.ofOptions path options)).map PendingCall.toOptions := by
  rw [before_eq_hooked]
  rfl

/-- With no interceptor there is nothing to run before a call. -/
theorem optionsSent_nil (path : String) : optionsSent rules [] path options = .ok options := rfl

theorem runBefore_refused {e : CallError}
    (h : optionsSent rules chain call.path options = .error e) :
    ∃ n < chain.length,
      Walk.FailsAt (hooked rules) ⟨call.path, options.timeout, options.metadata⟩ chain n e ∧
      runBefore rules chain call options =
        ((List.range (n + 1)).map (Happening.before (ε := ε)), .error e) := by
  rw [optionsSent_eq] at h
  cases folded : chain.foldlM (before rules) (PendingCall.ofOptions call.path options) with
  | ok pending => rw [folded] at h; cases h
  | error e' =>
    rw [folded] at h
    cases h
    obtain ⟨n, lt, fails, visited⟩ := Walk.walk_error (i := 0) folded
    refine ⟨n, lt, before_eq_hooked rules ▸ fails, ?_⟩
    cases chain with
    | nil => exact absurd lt (Nat.not_lt_zero n)
    | cons first rest =>
      have result :=
        Walk.walk_result (before rules) 0 (.ofOptions call.path options) (first :: rest)
      rw [folded] at result
      simp only [runBefore, PatternEgressInterceptor.beforeCall,
        GrpcEgressInterceptorChain.runBefore, List.isEmpty_cons, Bool.false_eq_true, if_false,
        result, visited, ← List.range_eq_range']
      rfl

theorem runBefore_accepted {o : CallOptions}
    (h : optionsSent rules chain call.path options = .ok o) :
    runBefore rules chain call options =
      ((List.range chain.length).map (Happening.before (ε := ε)) ++ [.reported (.started call)],
        .ok o) := by
  rw [optionsSent_eq] at h
  cases folded : chain.foldlM (before rules) (PendingCall.ofOptions call.path options) with
  | error e => rw [folded] at h; cases h
  | ok pending =>
    rw [folded] at h
    cases h
    cases chain with
    | nil => cases folded; rfl
    | cons first rest =>
      have result :=
        Walk.walk_result (before rules) 0 (.ofOptions call.path options) (first :: rest)
      rw [folded] at result
      simp only [runBefore, PatternEgressInterceptor.beforeCall,
        GrpcEgressInterceptorChain.runBefore, List.isEmpty_cons, Bool.false_eq_true, if_false,
        result, Walk.walk_ok folded, ← List.range_eq_range']
      rfl

/-- The copies that `run_after_egress` makes are those of `replyOf`. -/
theorem runAfterEgress_of_ne_nil {response : CallResponse ρ} {path : String}
    (nonempty : chain ≠ []) :
    runAfterEgress rules chain path response.headers response.trailers =
      match replyOf rules path response with
      | .error e => (([] : List (Happening ε)), .error e)
      | .ok reply => chain.runAfter reply := by
  cases chain with
  | nil => exact absurd rfl nonempty
  | cons first rest =>
    simp only [runAfterEgress, List.isEmpty_cons, Bool.false_eq_true, if_false, replyOf,
      ← MetadataRules.copy_eq_copied]
    cases rules.copy response.headers with
    | error e => rfl
    | ok headers =>
      cases rules.copy response.trailers with
      | error e => rfl
      | ok trailers => rfl

/-- The event of a reply that could be copied is passed on. -/
theorem forwarded_completed {response : CallResponse ρ} {reply : InboundReply}
    (h : replyOf rules call.path response = .ok reply) :
    forwarded rules (.completed call (some response.headers) response.trailers) =
      some (.completed call (some reply.headers) reply.trailers) := by
  simp only [replyOf, ← MetadataRules.copy_eq_copied] at h
  cases headers : rules.copy response.headers with
  | error e => rw [headers] at h; cases h
  | ok copied =>
    cases trailers : rules.copy response.trailers with
    | error e => rw [headers, trailers] at h; cases h
    | ok copied' =>
      rw [headers, trailers] at h
      cases h
      simp only [forwarded, headers, trailers]

/-- A reply that cannot be copied is not shown to the `after_call`s. -/
theorem runAfter_uncopied {response : CallResponse ρ} {e : CallError} (nonempty : chain ≠ [])
    (h : replyOf rules call.path response = .error e) :
    runAfter rules chain call response.headers response.trailers =
      ([(.reported (.failed call e) : Happening ε)], .error e) := by
  simp only [runAfter, runAfterEgress_of_ne_nil nonempty, h]
  rfl

/-- The `after_call`s walk over the reply, and the event says how they ended. -/
theorem runAfter_copied {response : CallResponse ρ} {reply : InboundReply} (nonempty : chain ≠ [])
    (h : replyOf rules call.path response = .ok reply) :
    ∃ event last, forwarded rules event = some last ∧
      Ends rules call ((chain.foldlM (after reply) ()).map fun _ => response) last ∧
      runAfter rules chain call response.headers response.trailers =
        ((Walk.walk (after reply) 0 () chain).1.map (Happening.after (ε := ε)) ++ [.reported event],
          chain.foldlM (after reply) ()) := by
  have result := Walk.walk_result (after reply) 0 () chain
  cases folded : chain.foldlM (after reply) () with
  | error e =>
    rw [folded] at result
    refine ⟨.failed call e, .failed call e, rfl, rfl, ?_⟩
    simp only [runAfter, runAfterEgress_of_ne_nil nonempty, h, GrpcEgressInterceptorChain.runAfter,
      result]
  | ok done =>
    rw [folded] at result
    refine ⟨_, _, forwarded_completed h, ⟨reply, h, rfl⟩, ?_⟩
    simp only [runAfter, runAfterEgress_of_ne_nil nonempty, h, GrpcEgressInterceptorChain.runAfter,
      result]

/-! ## The trace of a call that was sent -/

/-- The trace of a call that was sent and whose first `m` `after_call`s ran. -/
def sentLog (chain : GrpcEgressInterceptorChain) (call : CallIdentity) (request : ε) (m : Nat)
    (event : CallEvent MetadataView) : List (Happening ε) :=
  (List.range chain.length).map .before ++ .reported (.started call) :: .sent request ::
    ((List.range m).map .after ++ [.reported event])

variable {request : ε} {m : Nat} {event : CallEvent MetadataView}

theorem sentLog_asBefore :
    (sentLog chain call request m event).filterMap Happening.asBefore =
      List.range chain.length := by
  simp [sentLog, List.filterMap_map, List.filterMap_cons, Function.comp_def, Happening.asBefore,
    filterMap_nothing]

theorem sentLog_asAfter :
    (sentLog chain call request m event).filterMap Happening.asAfter = List.range m := by
  simp [sentLog, List.filterMap_map, List.filterMap_cons, Function.comp_def, Happening.asAfter,
    filterMap_nothing]

theorem sentLog_asSent :
    (sentLog chain call request m event).filterMap Happening.asSent = [request] := by
  simp [sentLog, List.filterMap_map, List.filterMap_cons, Function.comp_def, Happening.asSent,
    filterMap_nothing]

theorem reports_sentLog :
    reports (sentLog chain call request m event) = [.started call, event] := by
  simp [reports, sentLog, List.filterMap_map, List.filterMap_cons, Function.comp_def,
    Happening.asReported, filterMap_nothing]

/-! ## A call, by what happens to it -/

theorem replied_refused (send : CallOptions → ε) (inner : ε → Except CallError (CallResponse ρ))
    {e : CallError}
    (h : optionsSent rules chain call.path options = .error e) :
    ∃ n < chain.length,
      Walk.FailsAt (hooked rules) ⟨call.path, options.timeout, options.metadata⟩ chain n e ∧
      replied rules chain call send inner options =
        ⟨(List.range (n + 1)).map .before, .error e⟩ := by
  obtain ⟨n, lt, fails, ran⟩ := runBefore_refused (ε := ε) h
  refine ⟨n, lt, fails, ?_⟩
  simp only [replied, ran]

/-- With no interceptor a call is forwarded as it is. -/
theorem replied_nil (rules : MetadataRules) (call : CallIdentity) (send : CallOptions → ε)
    (inner : ε → Except CallError (CallResponse ρ)) (options : CallOptions) :
    ∃ event, replied rules [] call send inner options =
      ⟨sentLog [] call (send options) 0 event, inner (send options)⟩ := by
  -- The adapter returns the options untouched, and no reply is copied.
  simp only [replied, runBefore_accepted (optionsSent_nil call.path)]
  cases inner (send options) with
  | error e => exact ⟨_, rfl⟩
  | ok response => exact ⟨_, rfl⟩

/-- The `after_call`s let a reply through iff each of them does. -/
theorem foldlM_after {reply : InboundReply} {interceptors : List GrpcEgressInterceptor} :
    interceptors.foldlM (after reply) () = .ok () ↔
      ∀ interceptor ∈ interceptors, interceptor.afterCall reply = .ok () := by
  induction interceptors with
  | nil => exact ⟨fun _ _ member => (nomatch member), fun _ => rfl⟩
  | cons first rest ih =>
    rw [List.foldlM_cons, List.forall_mem_cons]
    unfold after
    cases first.afterCall reply with
    | error e => exact ⟨fun h => (nomatch h), fun h => (nomatch h.1)⟩
    | ok done => exact ⟨fun h => ⟨rfl, ih.mp h⟩, fun h => ih.mpr h.2⟩

section

variable {o : CallOptions} (sent : optionsSent rules chain call.path options = .ok o)
include sent

theorem reference_failed {e : CallError} (answer : inner (send o) = .error e) :
    reference rules chain call.path send inner options = .error e := by
  simp only [reference, sent, bind, Except.bind, answer]

theorem reference_uncopied {response : CallResponse ρ} {e : CallError}
    (answer : inner (send o) = .ok response)
    (copied : replyOf rules call.path response = .error e) :
    reference rules chain call.path send inner options = .error e := by
  simp only [reference, sent, bind, Except.bind, answer, copied]

theorem reference_copied {response : CallResponse ρ} {reply : InboundReply}
    (answer : inner (send o) = .ok response)
    (copied : replyOf rules call.path response = .ok reply) :
    reference rules chain call.path send inner options =
      (chain.foldlM (after reply) ()).map fun _ => response := by
  simp only [reference, sent, bind, Except.bind, answer, copied]
  unfold after
  cases chain.foldlM (fun _ interceptor => interceptor.afterCall reply) () with
  | error e => rfl
  | ok done => rfl

end

theorem reference_accepted {response : CallResponse ρ} :
    reference rules chain call.path send inner options = .ok response ↔
      ∃ o reply, optionsSent rules chain call.path options = .ok o ∧
        inner (send o) = .ok response ∧ replyOf rules call.path response = .ok reply ∧
        ∀ interceptor ∈ chain, interceptor.afterCall reply = .ok () := by
  constructor
  · intro ok
    cases sent : optionsSent rules chain call.path options with
    | error e => simp only [reference, sent, bind, Except.bind] at ok; cases ok
    | ok o =>
      cases answer : inner (send o) with
      | error e => rw [reference_failed sent answer] at ok; cases ok
      | ok response' =>
        cases copied : replyOf rules call.path response' with
        | error e => rw [reference_uncopied sent answer copied] at ok; cases ok
        | ok reply =>
          rw [reference_copied sent answer copied] at ok
          cases folded : chain.foldlM (after reply) () with
          | error e => rw [folded] at ok; cases ok
          | ok done =>
            rw [folded] at ok
            cases ok
            exact ⟨o, reply, rfl, answer, copied, foldlM_after.mp folded⟩
  · rintro ⟨o, reply, sent, answer, copied, accepted⟩
    rw [reference_copied sent answer copied, foldlM_after.mpr accepted]
    rfl

/-- What has been accepted when the `after_call` at `k` runs. -/
def Reached (rules : MetadataRules) (chain : GrpcEgressInterceptorChain) (call : CallIdentity)
    (request : ε) (inner : ε → Except CallError (CallResponse ρ)) (k : Nat) : Prop :=
  ∃ response reply, inner request = .ok response ∧ replyOf rules call.path response = .ok reply ∧
    ∀ interceptor ∈ chain.take k, interceptor.afterCall reply = .ok ()

/-- A call that was sent answers with `reference` and leaves the trace of `sentLog`. -/
theorem replied_sent (send : CallOptions → ε) (inner : ε → Except CallError (CallResponse ρ))
    {o : CallOptions} (nonempty : chain ≠ [])
    (sent : optionsSent rules chain call.path options = .ok o) :
    ∃ m ≤ chain.length, ∃ event last, forwarded rules event = some last ∧
      replied rules chain call send inner options =
        ⟨sentLog chain call (send o) m event,
          reference rules chain call.path send inner options⟩ ∧
      Ends rules call (reference rules chain call.path send inner options) last ∧
      ((∃ response, reference rules chain call.path send inner options = .ok response) →
        m = chain.length) ∧
      ∀ k < m, Reached rules chain call (send o) inner k := by
  simp only [replied, runBefore_accepted sent, List.append_assoc]
  cases answer : inner (send o) with
  | error e =>
    -- The wrapped client failed, so no `after_call` runs.
    rw [reference_failed sent answer]
    exact ⟨0, Nat.zero_le _, .failed call e, .failed call e, rfl, rfl, rfl,
      fun ⟨_, ok⟩ => (nomatch ok), fun _ lt => absurd lt (Nat.not_lt_zero _)⟩
  | ok response =>
    cases copied : replyOf rules call.path response with
    | error e =>
      -- Nor is a reply that cannot be copied shown to one.
      rw [reference_uncopied sent answer copied]
      simp only [runAfter_uncopied nonempty copied]
      exact ⟨0, Nat.zero_le _, .failed call e, .failed call e, rfl, rfl, rfl,
        fun ⟨_, ok⟩ => (nomatch ok), fun _ lt => absurd lt (Nat.not_lt_zero _)⟩
    | ok reply =>
      rw [reference_copied sent answer copied]
      obtain ⟨m, le, visited, whole, before⟩ := Walk.walk_visited (after reply) () chain
      obtain ⟨event, last, passed, ends, ran⟩ := runAfter_copied (ε := ε) nonempty copied
      refine ⟨m, le, event, last, passed, ?_, ends, fun ⟨_, ok⟩ => whole ?_,
        fun k lt => ⟨response, reply, answer, copied, ?_⟩⟩
      · simp only [ran, visited]
        rfl
      · cases folded : chain.foldlM (after reply) () with
        | error e => rw [folded] at ok; cases ok
        | ok done => exact ⟨done, rfl⟩
      · obtain ⟨done, accepted⟩ := before k lt
        exact foldlM_after.mp accepted

theorem replied_result (nonempty : chain ≠ []) :
    (replied rules chain call send inner options).result =
      reference rules chain call.path send inner options := by
  cases sent : optionsSent rules chain call.path options with
  | error e =>
    obtain ⟨n, -, -, out⟩ := replied_refused send inner sent
    simp only [out, reference, sent, bind, Except.bind]
  | ok o =>
    obtain ⟨m, -, event, last, -, out, -⟩ := replied_sent send inner nonempty sent
    rw [out]

/-- A call does what a chain should do to it. -/
theorem replied_faithful :
    Faithful rules chain call send inner options (replied rules chain call send inner options) where
  bare := by
    rintro rfl
    obtain ⟨event, out⟩ := replied_nil rules call send inner options
    rw [out]
    exact ⟨rfl, sentLog_asSent, fun k => toldTo_nil k _⟩
  refused e refused := by
    obtain ⟨n, lt, fails, out⟩ := replied_refused send inner refused
    rw [out]
    exact ⟨rfl, n, lt, fails, rfl⟩
  sent o sent := by
    cases chain with
    | nil =>
      cases sent
      obtain ⟨event, out⟩ := replied_nil rules call send inner options
      rw [out]
      exact ⟨sentLog_asBefore, sentLog_asSent⟩
    | cons first rest =>
      obtain ⟨m, -, event, last, -, out, -⟩ :=
        replied_sent send inner (List.cons_ne_nil first rest) sent
      rw [out]
      exact ⟨sentLog_asBefore, sentLog_asSent⟩
  result := replied_result
  accepted nonempty response := by
    rw [replied_result nonempty]
    exact reference_accepted
  afters := by
    cases sent : optionsSent rules chain call.path options with
    | error e =>
      -- A refused call has run `before_call`s only.
      obtain ⟨n, -, -, out⟩ := replied_refused send inner sent
      rw [out]
      refine ⟨0, Nat.zero_le _, ?_, fun ⟨_, ok⟩ => (nomatch ok),
        fun _ lt => absurd lt (Nat.not_lt_zero _)⟩
      rw [List.filterMap_map]
      exact filterMap_nothing (fun _ => rfl) _
    | ok o =>
      cases chain with
      | nil =>
        obtain ⟨event, out⟩ := replied_nil rules call send inner options
        rw [out]
        exact ⟨0, Nat.le_refl 0, sentLog_asAfter, fun _ => rfl,
          fun _ lt => absurd lt (Nat.not_lt_zero _)⟩
      | cons first rest =>
        obtain ⟨m, le, event, last, -, out, -, whole, reached⟩ :=
          replied_sent send inner (List.cons_ne_nil first rest) sent
        rw [out]
        refine ⟨m, le, sentLog_asAfter, whole, fun k lt => ?_⟩
        obtain ⟨response, reply, answer, copied, accepted⟩ := reached k lt
        exact ⟨o, response, reply, rfl, answer, copied, accepted⟩
  observed k member o sent := by
    obtain ⟨m, -, event, last, passed, out, ends, -⟩ := replied_sent send inner
      (List.ne_nil_of_length_pos (Nat.zero_lt_of_lt member)) sent
    rw [out]
    refine ⟨last, ?_, ends⟩
    rw [toldTo_eq member, reports_sentLog]
    have started : forwarded rules (.started call) = some (.started call) := rfl
    rw [List.filterMap_cons_some started, List.filterMap_cons_some passed]
    rfl

end

/-! ## The four calls -/

/-- Every unary or client-streaming call, typed or raw, through any chain and with any
wrapped client, does what a chain should do to it: it is sent once with the same path
and message and the options of the `before_call`s or not at all, and its result and
its two events are those of `reference`. -/
theorem intercepted_calls_faithful :
    (∀ (path : String) (inner : CallRequest μ → Except CallError (CallResponse ρ))
      (request : CallRequest μ),
      Faithful rules chain ⟨path, .unary⟩ (fun options => ⟨request.message, options⟩) inner
        request.options (call rules chain path inner request)) ∧
    (∀ (path : String) (inner : CallClientStreamRequest σ → Except CallError (CallResponse ρ))
      (request : CallClientStreamRequest σ),
      Faithful rules chain ⟨path, .clientStream⟩ (fun options => ⟨request.requests, options⟩) inner
        request.options (callClientStream rules chain path inner request)) ∧
    (∀ (inner : CallRawRequest → Except CallError (CallResponse ρ)) (request : CallRawRequest),
      Faithful rules chain ⟨request.path, .unary⟩
        (fun options => ⟨request.path, request.message, options⟩) inner request.options
        (callRaw rules chain inner request)) ∧
    (∀ (inner : CallRawClientStreamRequest σ → Except CallError (CallResponse ρ))
      (request : CallRawClientStreamRequest σ),
      Faithful rules chain ⟨request.path, .clientStream⟩
        (fun options => ⟨request.path, request.requests, options⟩) inner request.options
        (callRawClientStream rules chain inner request)) :=
  ⟨fun _ _ _ => replied_faithful, fun _ _ _ => replied_faithful, fun _ _ => replied_faithful,
    fun _ _ => replied_faithful⟩

end InterceptedTransport

namespace TaggedCall

/-- Metadata is never refused. -/
def rules : MetadataRules := ⟨fun _ _ => none, fun _ _ => none, fun _ => none⟩

/-- The first interceptor adds a tag, the second gives a tagged call five seconds, and the
third refuses reads and replies without trailers. -/
def chain : GrpcEgressInterceptorChain :=
  [⟨.addHeader "tag" "1" .done, fun _ => .ok ()⟩,
    ⟨.look fun call =>
      if call.hasHeader "tag" then .setTimeout (some (.fromSecs 5)) (.done (.ok ()))
      else .done (.error (.encode "no tag")), fun _ => .ok ()⟩,
    ⟨.look fun call =>
      .done (if call.path = "/test.Peer/Read" then .error (.encode "no reads") else .ok ()),
      fun reply => if reply.trailers.text = [] then .error (.decode "no trailers") else .ok ()⟩]

/-- A call with a header of its own. -/
def request (path : String) : CallRawRequest := ⟨path, [1], ⟨none, ⟨[("k", "v")], []⟩⟩⟩

/-- What the peer answers, with these trailers. -/
def response (trailers : List (String × String)) : CallResponse Unit :=
  ⟨(), Metadata.empty.view, (⟨trailers, []⟩ : Metadata).view⟩

/-- The call, answered so. -/
def made (path : String) (trailers : List (String × String)) :
    Intercepted CallRawRequest (CallResponse Unit) :=
  InterceptedTransport.callRaw rules chain (fun _ => .ok (response trailers)) (request path)

end TaggedCall

open TaggedCall in
/-- `intercepted_calls_faithful` for a call that is answered, one whose reply an `after_call`
refuses, and one that a `before_call` refuses. -/
theorem intercepted_calls_faithful_tagged :
    (made "/test.Peer/Echo" [("t", "1")]).log.filterMap Happening.asSent =
      [⟨"/test.Peer/Echo", [1], ⟨some (.fromSecs 5), ⟨[("k", "v"), ("tag", "1")], []⟩⟩⟩] ∧
    (made "/test.Peer/Echo" [("t", "1")]).result = .ok (response [("t", "1")]) ∧
    (made "/test.Peer/Echo" []).result = .error (.decode "no trailers") ∧
    (∃ last, toldTo rules chain 0 (made "/test.Peer/Echo" []).log =
      [.started ⟨"/test.Peer/Echo", .unary⟩, last] ∧
      last = .failed ⟨"/test.Peer/Echo", .unary⟩ (.decode "no trailers")) ∧
    (made "/test.Peer/Read" []).result = .error (.encode "no reads") := by
  have faithful (path : String) (trailers : List (String × String)) :=
    (InterceptedTransport.intercepted_calls_faithful (μ := Unit) (σ := Unit) rules chain).2.2.1
      (fun _ => .ok (response trailers)) (request path)
  have refusedReply := (faithful "/test.Peer/Echo" []).result (List.cons_ne_nil _ _)
  refine ⟨((faithful "/test.Peer/Echo" [("t", "1")]).sent _ rfl).2,
    (faithful "/test.Peer/Echo" [("t", "1")]).result (List.cons_ne_nil _ _), refusedReply, ?_,
    ((faithful "/test.Peer/Read" []).refused _ rfl).1⟩
  obtain ⟨last, told, ends⟩ := (faithful "/test.Peer/Echo" []).observed 0 (by decide) _ rfl
  rw [refusedReply] at ends
  exact ⟨last, told, ends⟩

end GrpcEgress
