import GrpcEgress.Contract.Metadata
import GrpcEgress.Lib.Walk

/-!
# Interceptor chains

A chain is the list of its interceptors in the order in which they were pushed.
`before_call` sees and changes a call only through `OutboundCall`, so it is a
program over that interface (`Hook`); `after_call` answers to a reply; `on_event`
has no answer, and what it was told can be read off the trace of the call.

`Happening` is one entry of such a trace. Interceptors are known by their place in
the chain. The adapter reports an event to the chain as a whole; `toldTo_eq` says
what the interceptor at one place is told of it.
-/

namespace GrpcEgress

/-- `CallIdentity`. -/
structure CallIdentity where
  path : String
  kind : CallKind
deriving DecidableEq

/-- `CallEvent`, over the type of the metadata it carries. -/
inductive CallEvent (μ : Type) where
  | started (call : CallIdentity)
  | opened (call : CallIdentity) (headers : μ)
  | messageRead (call : CallIdentity)
  | completed (call : CallIdentity) (headers : Option μ) (trailers : μ)
  | failed (call : CallIdentity) (error : CallError)
  | cancelled (call : CallIdentity)
deriving DecidableEq

namespace CallEvent

variable {μ : Type}

@[simp]
def isStarted : CallEvent μ → Bool
  | .started _ => true
  | _ => false

@[simp]
def isOpened : CallEvent μ → Bool
  | .opened _ _ => true
  | _ => false

@[simp]
def isMessageRead : CallEvent μ → Bool
  | .messageRead _ => true
  | _ => false

/-- The events that end a call. -/
@[simp]
def isTerminal : CallEvent μ → Bool
  | .completed _ _ _ | .failed _ _ | .cancelled _ => true
  | .started _ | .opened _ _ | .messageRead _ => false

end CallEvent

/-- `InboundReply`. -/
structure InboundReply where
  path : String
  headers : Metadata
  trailers : Metadata
deriving DecidableEq

/-! ## A call that has not been sent -/

/-- `PendingCall`. -/
structure PendingCall where
  path : String
  timeout : Option Duration
  metadata : Metadata
deriving DecidableEq

/-- What an interceptor can read of a call. -/
structure OutboundView where
  path : String
  timeout : Option Duration
  hasHeader : String → Bool
  headerValues : String → List String

/-- A `before_call`: what it does with the call it is given, and its result. -/
inductive Hook where
  | done (result : Except CallError Unit)
  | look (next : OutboundView → Hook)
  | setTimeout (timeout : Option Duration) (next : Hook)
  | addHeader (key value : String) (next : Except CallError Unit → Hook)

namespace PendingCall

/-- The call to `path` that the options describe. -/
def ofOptions (path : String) (options : CallOptions) : PendingCall :=
  ⟨path, options.timeout, options.metadata⟩

/-- The options of the call once the interceptors have run. -/
def toOptions (call : PendingCall) : CallOptions := ⟨call.timeout, call.metadata⟩

/-- The reading half of `OutboundCall`. A key that cannot be looked up has no values. -/
def view (rules : MetadataRules) (call : PendingCall) : OutboundView where
  path := call.path
  timeout := call.timeout
  hasHeader key := !((rules.getValues call.metadata key).toOption.getD []).isEmpty
  headerValues key := (rules.getValues call.metadata key).toOption.getD []

/-- `add_header`: a refused header leaves the call as it was. -/
def addHeader (rules : MetadataRules) (call : PendingCall) (key value : String) :
    Except CallError Unit × PendingCall :=
  match rules.append call.metadata key value with
  | .error e => (.error (.transport call.path .invalidArgument e), call)
  | .ok metadata => (.ok (), { call with metadata := metadata })

end PendingCall

/-- Runs a `before_call` on a call. -/
def Hook.run (rules : MetadataRules) : Hook → PendingCall → Except CallError Unit × PendingCall
  | .done result, call => (result, call)
  | .look next, call => (next (call.view rules)).run rules call
  | .setTimeout timeout next, call => next.run rules { call with timeout := timeout }
  | .addHeader key value next, call =>
    let added := call.addHeader rules key value
    (next added.1).run rules added.2

/-! ## The chain -/

/-- `GrpcEgressInterceptor`. -/
structure GrpcEgressInterceptor where
  beforeCall : Hook
  afterCall : InboundReply → Except CallError Unit

/-- `StdGrpcEgressInterceptorChain`. -/
abbrev GrpcEgressInterceptorChain := List GrpcEgressInterceptor

/-- What can be seen of an intercepted call: the hooks that ran, the events that were
reported, and what was sent to the wrapped client. -/
inductive Happening (ε : Type) where
  | before (index : Nat)
  | after (index : Nat)
  | reported (event : CallEvent MetadataView)
  | sent (request : ε)
deriving DecidableEq

namespace Happening

variable {ε : Type}

def asBefore : Happening ε → Option Nat
  | .before index => some index
  | _ => none

def asAfter : Happening ε → Option Nat
  | .after index => some index
  | _ => none

def asReported : Happening ε → Option (CallEvent MetadataView)
  | .reported event => some event
  | _ => none

def asSent : Happening ε → Option ε
  | .sent request => some request
  | _ => none

end Happening

namespace GrpcEgressInterceptorChain

variable {ε : Type} (rules : MetadataRules) (chain : GrpcEgressInterceptorChain)

/-- `push`. -/
def push (interceptor : GrpcEgressInterceptor) : GrpcEgressInterceptorChain :=
  chain ++ [interceptor]

/-- One `before_call` of `run_before`. A hook that fails ends the call, so the state
it leaves the call in is not looked at. -/
def before (call : PendingCall) (interceptor : GrpcEgressInterceptor) :
    Except CallError PendingCall :=
  match interceptor.beforeCall.run rules call with
  | (.ok (), call) => .ok call
  | (.error e, _) => .error e

/-- One `after_call` of `run_after`. -/
def after (reply : InboundReply) (_ : Unit) (interceptor : GrpcEgressInterceptor) :
    Except CallError Unit := interceptor.afterCall reply

/-- `run_before`. -/
def runBefore (call : PendingCall) : List (Happening ε) × Except CallError PendingCall :=
  let ran := Walk.walk (before rules) 0 call chain
  (ran.1.map .before, ran.2)

/-- `run_after`. -/
def runAfter (reply : InboundReply) : List (Happening ε) × Except CallError Unit :=
  let ran := Walk.walk (after reply) 0 () chain
  (ran.1.map .after, ran.2)

/-- `run_event`: which interceptor is told what, in order. -/
def runEvent (event : CallEvent Metadata) : List (Nat × CallEvent Metadata) :=
  (List.range chain.length).map fun index => (index, event)

end GrpcEgressInterceptorChain

/-! ## The adapter of a call -/

namespace PatternEgressInterceptor

variable {ε : Type} (rules : MetadataRules) (chain : GrpcEgressInterceptorChain)

/-- `before_call`: with no interceptor the options are not touched. -/
def beforeCall (call : CallIdentity) (options : CallOptions) :
    List (Happening ε) × Except CallError CallOptions :=
  if chain.isEmpty then ([], .ok options)
  else
    let ran := chain.runBefore rules (.ofOptions call.path options)
    (ran.1, ran.2.map PendingCall.toOptions)

/-- The event that `on_event` passes on. One whose metadata cannot be copied is
not passed on at all. -/
def forwarded : CallEvent MetadataView → Option (CallEvent Metadata)
  | .started call => some (.started call)
  | .opened call headers =>
    match rules.copy headers with
    | .ok headers => some (.opened call headers)
    | .error _ => none
  | .messageRead call => some (.messageRead call)
  | .completed call headers trailers =>
    match rules.copy trailers with
    | .error _ => none
    | .ok trailers =>
      match headers with
      | none => some (.completed call none trailers)
      | some headers =>
        match rules.copy headers with
        | .ok headers => some (.completed call (some headers) trailers)
        | .error _ => none
  | .failed call error => some (.failed call error)
  | .cancelled call => some (.cancelled call)

/-- `on_event`. -/
def onEvent (event : CallEvent MetadataView) : List (Nat × CallEvent Metadata) :=
  match forwarded rules event with
  | some event => chain.runEvent event
  | none => []

end PatternEgressInterceptor

/-! ## What one interceptor is told -/

section

variable {ε : Type} (rules : MetadataRules) (chain : GrpcEgressInterceptorChain)

/-- The events that a call reported, in order. -/
def reports (log : List (Happening ε)) : List (CallEvent MetadataView) :=
  log.filterMap Happening.asReported

/-- The events that the interceptor at `k` was told, in order. -/
def toldTo (k : Nat) (log : List (Happening ε)) : List (CallEvent Metadata) :=
  ((reports log).flatMap (PatternEgressInterceptor.onEvent rules chain)).filterMap fun told =>
    if told.1 = k then some told.2 else none

variable {rules : MetadataRules} {chain : GrpcEgressInterceptorChain}

theorem filterMap_nothing {α β : Type} {f : α → Option β} (h : ∀ a, f a = none) (l : List α) :
    l.filterMap f = [] := List.filterMap_eq_nil_iff.mpr fun a _ => h a

theorem reports_befores (indices : List Nat) :
    reports (indices.map (Happening.before (ε := ε))) = [] := by
  unfold reports
  rw [List.filterMap_map]
  exact filterMap_nothing (fun _ => rfl) indices

theorem reports_afters (indices : List Nat) :
    reports (indices.map (Happening.after (ε := ε))) = [] := by
  unfold reports
  rw [List.filterMap_map]
  exact filterMap_nothing (fun _ => rfl) indices

theorem reports_reported (events : List (CallEvent MetadataView)) :
    reports (events.map (Happening.reported (ε := ε))) = events := by
  unfold reports
  rw [List.filterMap_map]
  exact List.filterMap_some

theorem reports_append (log log' : List (Happening ε)) :
    reports (log ++ log') = reports log ++ reports log' := List.filterMap_append

/-- Every interceptor is told an event once. -/
theorem filterMap_runEvent {k : Nat} (member : k < chain.length) (event : CallEvent Metadata) :
    ((chain.runEvent event).filterMap fun told => if told.1 = k then some told.2 else none) =
      [event] := by
  have only : ∀ n, (((List.range n).map fun index => (index, event)).filterMap fun told =>
      if told.1 = k then some told.2 else none) = if k < n then [event] else [] := by
    intro n
    induction n with
    | zero => rfl
    | succ n ih =>
      rw [List.range_succ, List.map_append, List.filterMap_append, ih]
      show _ ++ List.filterMap _ [(n, event)] = _
      rw [List.filterMap_cons, List.filterMap_nil]
      rcases Nat.lt_trichotomy k n with lt | rfl | gt
      · rw [if_pos lt, if_pos (Nat.lt_succ_of_lt lt), if_neg (Nat.ne_of_gt lt)]
        rfl
      · rw [if_neg (Nat.lt_irrefl k), if_pos (Nat.lt_succ_self k), if_pos rfl]
        rfl
      · rw [if_neg (Nat.lt_asymm gt), if_neg (Nat.not_lt.mpr gt), if_neg (Nat.ne_of_lt gt)]
        rfl
  exact (only chain.length).trans (if_pos member)

theorem toldTo_nil (k : Nat) (log : List (Happening ε)) : toldTo rules [] k log = [] := by
  unfold toldTo
  induction reports log with
  | nil => rfl
  | cons event events ih =>
    rw [List.flatMap_cons, List.filterMap_append, ih]
    unfold PatternEgressInterceptor.onEvent
    cases PatternEgressInterceptor.forwarded rules event with
    | none => rfl
    | some event => rfl

/-- Every interceptor of the chain is told what was reported, except the events whose
metadata cannot be copied. -/
theorem toldTo_eq {k : Nat} (member : k < chain.length) (log : List (Happening ε)) :
    toldTo rules chain k log =
      (reports log).filterMap (PatternEgressInterceptor.forwarded rules) := by
  unfold toldTo
  induction reports log with
  | nil => rfl
  | cons event events ih =>
    rw [List.flatMap_cons, List.filterMap_append, ih]
    unfold PatternEgressInterceptor.onEvent
    cases passed : PatternEgressInterceptor.forwarded rules event with
    | none =>
      rw [List.filterMap_cons_none passed]
      rfl
    | some event =>
      rw [List.filterMap_cons_some passed]
      show List.filterMap _ (chain.runEvent event) ++ _ = _
      rw [filterMap_runEvent member]
      rfl

end

end GrpcEgress
