import GrpcEgress.Interceptor.Reply

/-!
# What interceptors do to a call

A `before_call` changes a call only by `set_timeout` and `add_header`; `CallOp` is one
such operation. `Hook.ops` and `chainOps` are the operations that a hook and a chain
perform on a call, and `Hook.run_ops` and `foldlM_ops` that they do nothing else. So what
holds of every list of operations holds of every interceptor.

The second half is about the two interceptors of the workspace that add a header unless
the call carries it: the trace context and the bearer token. `Settles` says that a hook
has nothing left to do on a call that an earlier one left behind, however many headers
were added in between.

1. `ops_onlyAdds`: what a list of operations leaves of a call;
2. `foldlM_again`: a chain may hold a hook that settles once or twice;
3. `interceptors_only_add`.
-/

namespace GrpcEgress

open GrpcEgressInterceptorChain InterceptedTransport

/-- An operation of `OutboundCall` that changes the call. -/
inductive CallOp where
  | addHeader (key value : String)
  | setTimeout (timeout : Option Duration)
deriving DecidableEq

namespace CallOp

variable (rules : MetadataRules)

/-- The call after an operation; a refused header leaves its error aside. -/
def apply (call : PendingCall) : CallOp → PendingCall
  | .addHeader key value => (call.addHeader rules key value).2
  | .setTimeout timeout => { call with timeout := timeout }

/-- The header that an operation adds to a call, if it adds one. -/
def added (call : PendingCall) : CallOp → List (String × String)
  | .addHeader key value =>
    match (call.addHeader rules key value).1 with
    | .ok () => [(key, value)]
    | .error _ => []
  | .setTimeout _ => []

/-- The timeout that an operation sets. -/
def timeout : CallOp → Option (Option Duration)
  | .addHeader _ _ => none
  | .setTimeout timeout => some timeout

/-- The call after a list of operations. -/
def applyAll (call : PendingCall) (ops : List CallOp) : PendingCall := ops.foldl (apply rules) call

/-- The headers that a list of operations adds, in order. -/
def addedAll (call : PendingCall) : List CallOp → List (String × String)
  | [] => []
  | op :: ops => op.added rules call ++ addedAll (op.apply rules call) ops

end CallOp

open CallOp

/-- A call that was changed by adding headers and setting timeouts. -/
structure OnlyAdds (before after : PendingCall) (headers : List (String × String))
    (timeouts : List (Option Duration)) : Prop where
  path : after.path = before.path
  text : after.metadata.text = before.metadata.text ++ headers
  binary : after.metadata.binary = before.metadata.binary
  timeout : after.timeout = timeouts.getLast?.getD before.timeout

section

variable {rules : MetadataRules}

/-- A header that is refused leaves the call as it was. -/
theorem addHeader_refused {call : PendingCall} {key value : String} {e : CallError}
    (refused : (call.addHeader rules key value).1 = .error e) :
    (call.addHeader rules key value).2 = call := by
  unfold PendingCall.addHeader at refused ⊢
  split
  · rfl
  · next accepted =>
    rw [accepted] at refused
    cases refused

/-- A header that is added comes after all the others. -/
theorem addHeader_added {call : PendingCall} {key value : String}
    (added : (call.addHeader rules key value).1 = .ok ()) :
    (call.addHeader rules key value).2 = { call with metadata :=
      { call.metadata with text := call.metadata.text ++ [(key, value)] } } := by
  unfold PendingCall.addHeader at added ⊢
  split
  · next refused =>
    rw [refused] at added
    cases added
  · next accepted =>
    rw [← (MetadataRules.append_iff.mp accepted).2.2]

theorem addHeader_ok_iff {call : PendingCall} {key value : String} :
    (call.addHeader rules key value).1 = .ok () ↔
      rules.Built call.metadata ∧ rules.textError key value = none := by
  unfold PendingCall.addHeader
  split
  · next refused =>
    refine ⟨fun added => (by cases added), fun ⟨built, valid⟩ => ?_⟩
    rw [MetadataRules.append_iff.mpr ⟨built, valid, rfl⟩] at refused
    cases refused
  · next accepted =>
    obtain ⟨built, valid, -⟩ := MetadataRules.append_iff.mp accepted
    exact ⟨fun _ => ⟨built, valid⟩, fun _ => rfl⟩

theorem op_onlyAdds (call : PendingCall) (op : CallOp) :
    OnlyAdds call (op.apply rules call) (op.added rules call) op.timeout.toList := by
  cases op with
  | setTimeout timeout => exact ⟨rfl, (List.append_nil _).symm, rfl, rfl⟩
  | addHeader key value =>
    cases answered : (call.addHeader rules key value).1 with
    | error e =>
      simp only [CallOp.apply, CallOp.added, answered, addHeader_refused answered]
      exact ⟨rfl, (List.append_nil _).symm, rfl, rfl⟩
    | ok done =>
      simp only [CallOp.apply, CallOp.added, answered, addHeader_added answered]
      exact ⟨rfl, rfl, rfl, rfl⟩

theorem OnlyAdds.trans {a b c : PendingCall} {headers headers' : List (String × String)}
    {timeouts timeouts' : List (Option Duration)} (first : OnlyAdds a b headers timeouts)
    (second : OnlyAdds b c headers' timeouts') :
    OnlyAdds a c (headers ++ headers') (timeouts ++ timeouts') where
  path := second.path.trans first.path
  text := by rw [second.text, first.text, List.append_assoc]
  binary := second.binary.trans first.binary
  timeout := by
    rw [second.timeout, first.timeout, List.getLast?_append]
    cases timeouts'.getLast? with
    | none => rfl
    | some last => rfl

/-- Any operations: the path and the binary entries stay, the text entries stay in front
of those that were added, and the timeout is the last one that was set. -/
theorem ops_onlyAdds (ops : List CallOp) (call : PendingCall) :
    OnlyAdds call (applyAll rules call ops) (addedAll rules call ops)
      (ops.filterMap CallOp.timeout) := by
  induction ops generalizing call with
  | nil => exact ⟨rfl, (List.append_nil _).symm, rfl, rfl⟩
  | cons op ops ih =>
    have both := (op_onlyAdds call op).trans (ih (op.apply rules call))
    have timeouts : (op :: ops).filterMap CallOp.timeout =
        op.timeout.toList ++ ops.filterMap CallOp.timeout := by
      cases op with
      | addHeader key value => rfl
      | setTimeout timeout => rfl
    rw [timeouts]
    exact both

end

/-! ## The operations of a chain -/

/-- The operations that a `before_call` performs on a call. -/
def Hook.ops (rules : MetadataRules) : Hook → PendingCall → List CallOp
  | .done _, _ => []
  | .look next, call => (next (call.view rules)).ops rules call
  | .setTimeout timeout next, call =>
    .setTimeout timeout :: next.ops rules { call with timeout := timeout }
  | .addHeader key value next, call =>
    let added := call.addHeader rules key value
    .addHeader key value :: (next added.1).ops rules added.2

/-- The operations that the `before_call`s of a chain perform, up to one that fails. -/
def chainOps (rules : MetadataRules) : GrpcEgressInterceptorChain → PendingCall → List CallOp
  | [], _ => []
  | first :: rest, call =>
    let ran := first.beforeCall.run rules call
    first.beforeCall.ops rules call ++
      match ran.1 with
      | .ok () => chainOps rules rest ran.2
      | .error _ => []

section

variable {rules : MetadataRules}

/-- A hook does nothing to a call but its operations. -/
theorem Hook.run_ops (hook : Hook) (call : PendingCall) :
    (hook.run rules call).2 = applyAll rules call (hook.ops rules call) := by
  induction hook generalizing call with
  | done result => rfl
  | look next ih => exact ih _ call
  | setTimeout timeout next ih => exact ih _
  | addHeader key value next ih => exact ih _ _

theorem applyAll_append (call : PendingCall) (ops ops' : List CallOp) :
    applyAll rules call (ops ++ ops') = applyAll rules (applyAll rules call ops) ops' :=
  List.foldl_append

/-- The call that a chain sends is the caller's after the operations of the chain. -/
theorem foldlM_ops {chain : GrpcEgressInterceptorChain} {call sent : PendingCall}
    (ran : chain.foldlM (before rules) call = .ok sent) :
    sent = applyAll rules call (chainOps rules chain call) := by
  induction chain generalizing call with
  | nil =>
    cases ran
    rfl
  | cons first rest ih =>
    have hooked : (first.beforeCall.run rules call).2 = _ := first.beforeCall.run_ops call
    rw [List.foldlM_cons] at ran
    unfold before at ran
    rcases answer : first.beforeCall.run rules call with ⟨e | _, next⟩
    · rw [answer] at ran
      cases ran
    · rw [answer] at ran hooked
      simp only [chainOps, answer, applyAll_append]
      rw [← hooked]
      exact ih ran

end

/-! ## The trace context and the bearer token -/

/-- `TraceContextSource`. -/
inductive TraceContextSource where
  | passThrough
  | static (traceparent : String) (tracestate : Option String)
deriving DecidableEq

namespace TraceContextGrpcEgressInterceptor

/-- `TRACEPARENT`. -/
def traceparentKey : String := "traceparent"

/-- `TRACESTATE`. -/
def tracestateKey : String := "tracestate"

/-- `before_call`. -/
def beforeCall (source : TraceContextSource) : Hook :=
  .look fun call =>
    if call.hasHeader traceparentKey then .done (.ok ())
    else
      match source with
      | .passThrough => .done (.ok ())
      | .static traceparent tracestate =>
        .addHeader traceparentKey traceparent fun
          | .error e => .done (.error e)
          | .ok () =>
            match tracestate with
            | some state => .addHeader tracestateKey state .done
            | none => .done (.ok ())

/-- The interceptor of a source. -/
def ofSource (source : TraceContextSource) : GrpcEgressInterceptor :=
  ⟨beforeCall source, fun _ => .ok ()⟩

end TraceContextGrpcEgressInterceptor

namespace BearerEgressInterceptor

/-- `AUTHORIZATION_HEADER`. -/
def authorizationHeader : String := "authorization"

/-- `before_call`, when signing a token comes to `signed`. -/
def beforeCall (signed : Except String String) : Hook :=
  .look fun call =>
    if call.hasHeader authorizationHeader then .done (.ok ())
    else
      match signed with
      | .error _ => .done (.error (.transport call.path .internal "failed to mint bearer token"))
      | .ok token => .addHeader authorizationHeader ("Bearer " ++ token) .done

/-- The interceptor, in a call for which signing comes to `signed`. -/
def signing (signed : Except String String) : GrpcEgressInterceptor :=
  ⟨beforeCall signed, fun _ => .ok ()⟩

end BearerEgressInterceptor

/-! ## Hooks that settle -/

/-- On a call that `first` accepted and that only got headers since, `again` does
nothing. -/
def Settles (rules : MetadataRules) (first again : Hook) : Prop :=
  ∀ call left, first.run rules call = (.ok (), left) → ∀ (later : PendingCall) headers,
    later.metadata.text = left.metadata.text ++ headers →
    again.run rules later = (.ok (), later)

section

variable {rules : MetadataRules}

/-- Before a hook that settles, its second place in a chain can be left out. -/
theorem foldlM_again {first again : GrpcEgressInterceptor}
    (settles : Settles rules first.beforeCall again.beforeCall)
    (a b c : GrpcEgressInterceptorChain) (call : PendingCall) :
    (a ++ [first] ++ b ++ [again] ++ c).foldlM (before rules) call =
      (a ++ [first] ++ b ++ c).foldlM (before rules) call := by
  simp only [List.foldlM_append, List.foldlM_cons, List.foldlM_nil, bind_assoc, pure_bind]
  cases ranA : a.foldlM (before rules) call with
  | error e => rfl
  | ok callA =>
    show (before rules callA first >>= _) = (before rules callA first >>= _)
    cases ranFirst : before rules callA first with
    | error e => rfl
    | ok left =>
      show (b.foldlM (before rules) left >>= _) = (b.foldlM (before rules) left >>= _)
      cases ranB : b.foldlM (before rules) left with
      | error e => rfl
      | ok later =>
        -- The interceptors in between left the headers where they were.
        have kept : later.metadata.text =
            left.metadata.text ++ addedAll rules left (chainOps rules b left) := by
          rw [foldlM_ops ranB]
          exact (ops_onlyAdds _ _).text
        have accepted : first.beforeCall.run rules callA = (.ok (), left) := by
          unfold before at ranFirst
          split at ranFirst
          · next call ran =>
            cases ranFirst
            exact ran
          · cases ranFirst
        have idle : before rules later again = .ok later := by
          simp only [before, settles callA left accepted later _ kept]
        show (before rules later again >>= _) = _
        rw [idle]

theorem optionsSent_again {first again : GrpcEgressInterceptor}
    (settles : Settles rules first.beforeCall again.beforeCall)
    (a b c : GrpcEgressInterceptorChain) (path : String) (options : CallOptions) :
    optionsSent rules (a ++ [first] ++ b ++ [again] ++ c) path options =
      optionsSent rules (a ++ [first] ++ b ++ c) path options := by
  simp only [optionsSent_eq]
  rw [foldlM_again settles]

/-- A key that can be looked up is found where the call carries it. -/
theorem hasHeader_eq {key : String} (known : rules.keyError key = none) (call : PendingCall) :
    (call.view rules).hasHeader key = call.metadata.holds key := by
  obtain ⟨values, looked, empty⟩ := MetadataRules.getValues_isEmpty (m := call.metadata) known
  simp only [PendingCall.view, looked, Except.toOption, Option.getD_some, empty, Bool.not_not]

/-- A header stays when others are added. -/
theorem holds_of_kept {before after : Metadata} {headers : List (String × String)} {key : String}
    (kept : after.text = before.text ++ headers) (held : before.holds key = true) :
    after.holds key = true := by
  unfold Metadata.holds at held ⊢
  rw [kept, List.any_append, held, Bool.true_or]

/-- A header that was added is held. -/
theorem holds_of_added (m : Metadata) (key value : String) :
    ({ m with text := m.text ++ [(key, value)] } : Metadata).holds key = true := by
  unfold Metadata.holds
  simp only [List.any_append, List.any_cons, beq_self_eq_true, Bool.true_or, Bool.or_true]

end

namespace TraceContextGrpcEgressInterceptor

variable {rules : MetadataRules} (known : rules.keyError traceparentKey = none)
include known

/-- A call that carries a `traceparent` is left as it is. -/
theorem run_of_carried (source : TraceContextSource) {call : PendingCall}
    (carried : call.metadata.holds traceparentKey = true) :
    (beforeCall source).run rules call = (.ok (), call) := by
  simp only [beforeCall, Hook.run, hasHeader_eq known, carried, if_true]

/-- A call that the interceptor accepted carries a `traceparent`, unless the source has
none to give. -/
theorem carried_of_run {traceparent : String} {tracestate : Option String}
    {call left : PendingCall}
    (ran : (beforeCall (.static traceparent tracestate)).run rules call = (.ok (), left)) :
    left.metadata.holds traceparentKey = true := by
  simp only [beforeCall, Hook.run, hasHeader_eq known] at ran
  cases carried : call.metadata.holds traceparentKey with
  | true =>
    rw [carried, if_pos rfl] at ran
    cases ran
    exact carried
  | false =>
    rw [carried, if_neg Bool.false_ne_true] at ran
    simp only [Hook.run] at ran
    cases added : (call.addHeader rules traceparentKey traceparent).1 with
    | error e =>
      rw [added] at ran
      cases ran
    | ok done =>
      have held : (call.addHeader rules traceparentKey traceparent).2.metadata.holds
          traceparentKey = true := by
        rw [addHeader_added added]
        exact holds_of_added call.metadata traceparentKey traceparent
      rw [added] at ran
      cases tracestate with
      | none =>
        cases ran
        exact held
      | some state =>
        have kept := (@op_onlyAdds rules (call.addHeader rules traceparentKey traceparent).2
          (.addHeader tracestateKey state)).text
        have same : left = CallOp.apply rules
            (call.addHeader rules traceparentKey traceparent).2 (.addHeader tracestateKey state) :=
          (congrArg Prod.snd ran).symm
        rw [same]
        exact holds_of_kept kept held

theorem settles (source : TraceContextSource) :
    Settles rules (beforeCall source) (beforeCall source) := by
  intro call left ran later headers kept
  cases source with
  | passThrough =>
    simp only [beforeCall, Hook.run]
    split
    · rfl
    · rfl
  | static traceparent tracestate =>
    exact run_of_carried known _ (holds_of_kept kept (carried_of_run known ran))

end TraceContextGrpcEgressInterceptor

namespace BearerEgressInterceptor

variable {rules : MetadataRules} (known : rules.keyError authorizationHeader = none)
include known

/-- A call that carries an `authorization` is left as it is, and nothing is signed. -/
theorem run_of_carried (signed : Except String String) {call : PendingCall}
    (carried : call.metadata.holds authorizationHeader = true) :
    (beforeCall signed).run rules call = (.ok (), call) := by
  simp only [beforeCall, Hook.run, hasHeader_eq known, carried, if_true]

theorem carried_of_run {signed : Except String String} {call left : PendingCall}
    (ran : (beforeCall signed).run rules call = (.ok (), left)) :
    left.metadata.holds authorizationHeader = true := by
  simp only [beforeCall, Hook.run, hasHeader_eq known] at ran
  cases carried : call.metadata.holds authorizationHeader with
  | true =>
    rw [carried, if_pos rfl] at ran
    cases ran
    exact carried
  | false =>
    rw [carried, if_neg Bool.false_ne_true] at ran
    cases signed with
    | error e => cases ran
    | ok token =>
      simp only [Hook.run] at ran
      obtain ⟨added, rfl⟩ := Prod.mk.inj ran
      rw [addHeader_added added]
      exact holds_of_added call.metadata authorizationHeader ("Bearer " ++ token)

/-- Whatever signing comes to the second time. -/
theorem settles (signed signed' : Except String String) :
    Settles rules (beforeCall signed) (beforeCall signed') := by
  intro call left ran later headers kept
  exact run_of_carried known _ (holds_of_kept kept (carried_of_run known ran))

end BearerEgressInterceptor

/-! ## Interceptors only add -/

/-- What a chain sends: the caller's options after the operations of the chain. -/
theorem optionsSent_ops {rules : MetadataRules} {chain : GrpcEgressInterceptorChain}
    {path : String} {options sent : CallOptions}
    (ran : optionsSent rules chain path options = .ok sent) :
    sent = (applyAll rules (.ofOptions path options)
      (chainOps rules chain (.ofOptions path options))).toOptions := by
  rw [optionsSent_eq] at ran
  cases folded : chain.foldlM (before rules) (PendingCall.ofOptions path options) with
  | error e =>
    rw [folded] at ran
    cases ran
  | ok call =>
    rw [folded] at ran
    cases ran
    rw [← foldlM_ops folded]

open TraceContextGrpcEgressInterceptor BearerEgressInterceptor in
/-- Operations on a call only add headers and set the timeout, and interceptors do nothing
else; neither the trace context nor the bearer token is added to a call that carries one,
so that a chain may hold either interceptor twice. Both names are valid metadata keys. -/
theorem interceptors_only_add (rules : MetadataRules)
    (trace : rules.keyError traceparentKey = none)
    (authorization : rules.keyError authorizationHeader = none) :
    (∀ call ops, OnlyAdds call (applyAll rules call ops) (addedAll rules call ops)
      (ops.filterMap CallOp.timeout)) ∧
    (∀ call key value e, (PendingCall.addHeader rules call key value).1 = .error e →
      (call.addHeader rules key value).2 = call) ∧
    (∀ hook call, (Hook.run rules hook call).2 = applyAll rules call (hook.ops rules call)) ∧
    (∀ chain path options sent, optionsSent rules chain path options = .ok sent →
      let call := PendingCall.ofOptions path options
      let ops := chainOps rules chain call
      sent.metadata.text = options.metadata.text ++ addedAll rules call ops ∧
      sent.metadata.binary = options.metadata.binary ∧
      sent.timeout = (ops.filterMap CallOp.timeout).getLast?.getD options.timeout) ∧
    (∀ source call, Metadata.holds call.metadata traceparentKey = true →
      (TraceContextGrpcEgressInterceptor.beforeCall source).run rules call = (.ok (), call)) ∧
    (∀ signed call, Metadata.holds call.metadata authorizationHeader = true →
      (BearerEgressInterceptor.beforeCall signed).run rules call = (.ok (), call)) ∧
    (∀ source a b c path options,
      optionsSent rules (a ++ [ofSource source] ++ b ++ [ofSource source] ++ c) path options =
        optionsSent rules (a ++ [ofSource source] ++ b ++ c) path options) ∧
    (∀ signed signed' a b c path options,
      optionsSent rules (a ++ [signing signed] ++ b ++ [signing signed'] ++ c) path options =
        optionsSent rules (a ++ [signing signed] ++ b ++ c) path options) := by
  refine ⟨fun call ops => ops_onlyAdds ops call, fun _ _ _ _ => addHeader_refused,
    Hook.run_ops, ?_, ?_, ?_, ?_, ?_⟩
  · intro chain path options sent ran call ops
    have adds : OnlyAdds call (applyAll rules call ops) _ _ := ops_onlyAdds ops call
    rw [optionsSent_ops ran]
    exact ⟨adds.text, adds.binary, adds.timeout⟩
  · intro source call carried
    exact TraceContextGrpcEgressInterceptor.run_of_carried trace source carried
  · intro signed call carried
    exact BearerEgressInterceptor.run_of_carried authorization signed carried
  · intro source a b c path options
    exact optionsSent_again (TraceContextGrpcEgressInterceptor.settles trace source) a b c _ _
  · intro signed signed' a b c path options
    exact optionsSent_again (BearerEgressInterceptor.settles authorization signed signed')
      a b c _ _

namespace HeadersExample

/-- Neither keys nor values are empty. -/
def rules : MetadataRules where
  textError key value := if key = "" ∨ value = "" then some "invalid metadata" else none
  binaryError _ _ := none
  keyError key := if key = "" then some "invalid metadata" else none

/-- An interceptor that swallows the error of a header it tries to add. -/
def careless : GrpcEgressInterceptor where
  beforeCall := .addHeader "x-region" "" fun _ => .setTimeout none (.done (.ok ()))
  afterCall := fun _ => .ok ()

end HeadersExample

open HeadersExample TraceContextGrpcEgressInterceptor BearerEgressInterceptor in
theorem interceptors_only_add_twice :
    optionsSent rules ([] ++ [signing (.ok "a")] ++ [careless] ++ [signing (.ok "b")] ++ [])
      "/svc/Get" ⟨some .zero, ⟨[("x-tenant-id", "blue")], []⟩⟩ =
        .ok ⟨none, ⟨[("x-tenant-id", "blue"), ("authorization", "Bearer a")], []⟩⟩ :=
  ((interceptors_only_add rules (by decide) (by decide)).2.2.2.2.2.2.2
    (.ok "a") (.ok "b") [] [careless] [] "/svc/Get" _).trans (by decide)

end GrpcEgress
