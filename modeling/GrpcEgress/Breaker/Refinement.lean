import GrpcEgress.Breaker.Client
import GrpcEgress.Contract.Calls

/-!
# The breaker refines the shared state machine

The eight calls of `GrpcBreakerClient` around a wrapped client that is really run:
`around` is `guard` and `aroundRaw` the text that the raw calls repeat, both in the
state of the breaker and of everything below it. `asked` notes every question put to
the state machine.

The state machine on its own is `SharedMachine`, a pair of pure functions that do not
fail, and `expected` is all that it says about a run of calls: it does not know the
shape of a call, only when it was made, its path and how the wrapped client ends it.

1. `around_eq_guard`, `aroundRaw_eq_around`: the eight calls are guarded alike, and as
   the modules before this one have it;
2. `make_eq`: one step, whatever the shape;
3. `breaker_refines_machine`: whole runs.
-/

namespace GrpcEgress

open StdFailureClassifier

/-! ## A breaker and the client below it -/

/-- One question put to the state machine. -/
inductive Consult where
  | admission (now : Nat)
  | record (outcome : Outcome) (now : Nat)
deriving DecidableEq, Repr

/-- The node of a breaker, what it asked the state machine, oldest first, and the
state below it. -/
structure Around (S : Type) where
  node : BreakerNode
  asked : List Consult
  below : S
deriving DecidableEq

namespace GrpcBreakerClient

variable {S ρ : Type} (b : GrpcBreakerClient)

/-- `guard`. The wrapped call is run in the state below, or not at all. -/
def around (path : String) (clock : CallClock) (call : S → S × Except CallError ρ)
    (s : Around S) : Around S × Except CallError ρ :=
  if !b.config.enabled then
    let ran := call s.below
    ({ s with below := ran.1 }, ran.2)
  else
    match b.admitCall path s.node clock.admitted with
    | (node, .error e) => (⟨node, s.asked ++ [.admission clock.admitted], s.below⟩, .error e)
    | (node, .ok ()) =>
      let ran := call s.below
      let outcome := classifyResult ran.2
      (⟨b.record outcome node clock.recorded,
        s.asked ++ [.admission clock.admitted, .record outcome clock.recorded], ran.1⟩, ran.2)

/-- The body of the four raw calls. -/
def aroundRaw (path : String) (clock : CallClock) (call : S → S × Except CallError ρ)
    (s : Around S) : Around S × Except CallError ρ :=
  let admitted : Around S × Except CallError Unit :=
    if b.config.enabled then
      let asked := b.admitCall path s.node clock.admitted
      (⟨asked.1, s.asked ++ [.admission clock.admitted], s.below⟩, asked.2)
    else (s, .ok ())
  match admitted with
  | (s, .error e) => (s, .error e)
  | (s, .ok ()) =>
    let ran := call s.below
    let s := { s with below := ran.1 }
    if b.config.enabled then
      let outcome := classifyResult ran.2
      (⟨b.record outcome s.node clock.recorded,
        s.asked ++ [.record outcome clock.recorded], s.below⟩, ran.2)
    else (s, ran.2)

/-- The raw calls go around the wrapped client as the typed ones do. -/
theorem aroundRaw_eq_around (path : String) (clock : CallClock)
    (call : S → S × Except CallError ρ) (s : Around S) :
    b.aroundRaw path clock call s = b.around path clock call s := by
  unfold aroundRaw around
  cases b.config.enabled with
  | false => rfl
  | true =>
    simp only [Bool.not_true, Bool.false_eq_true, if_true, if_false]
    obtain ⟨node, answer⟩ := b.admitCall path s.node clock.admitted
    cases answer with
    | error e => rfl
    | ok _ => simp only [List.append_assoc, List.cons_append, List.nil_append]

section

variable {b} {path : String} {clock : CallClock} {call : S → S × Except CallError ρ}
  {s : Around S}

theorem around_of_disabled (disabled : b.config.enabled = false) :
    b.around path clock call s = ({ s with below := (call s.below).1 }, (call s.below).2) := by
  simp only [around, disabled, Bool.not_false, if_true]

theorem around_of_refused (enabled : b.config.enabled = true) {node : BreakerNode} {e : CallError}
    (refused : b.admitCall path s.node clock.admitted = (node, .error e)) :
    b.around path clock call s =
      (⟨node, s.asked ++ [.admission clock.admitted], s.below⟩, .error e) := by
  simp only [around, enabled, refused, Bool.not_true, Bool.false_eq_true, if_false]

theorem around_of_proceed (enabled : b.config.enabled = true) {node : BreakerNode}
    (lets : b.admitCall path s.node clock.admitted = (node, .ok ())) :
    b.around path clock call s =
      (⟨b.record (classifyResult (call s.below).2) node clock.recorded,
        s.asked ++ [.admission clock.admitted,
          .record (classifyResult (call s.below).2) clock.recorded],
        (call s.below).1⟩, (call s.below).2) := by
  simp only [around, enabled, lets, Bool.not_true, Bool.false_eq_true, if_false]

end

/-- What `around` does, from the guarded call: the wrapped call is run, once, exactly
when `guard` reaches the wrapped client. -/
theorem around_eq_guard (path : String) (clock : CallClock) (call : S → S × Except CallError ρ)
    (s : Around S) :
    let guarded := b.guard path clock (call s.below).2 s.node
    (b.around path clock call s).1.node = guarded.node ∧
    (b.around path clock call s).1.below =
      (if guarded.reached then (call s.below).1 else s.below) ∧
    (b.around path clock call s).2 = guarded.result := by
  dsimp only
  cases enabled : b.config.enabled with
  | false =>
    rw [around_of_disabled enabled]
    simp only [guard, enabled, Bool.not_false, if_true, and_self]
  | true =>
    rcases asked : b.admitCall path s.node clock.admitted with ⟨node, e | _⟩
    · rw [around_of_refused enabled asked, guard_of_refused enabled asked]
      exact ⟨rfl, rfl, rfl⟩
    · rw [around_of_proceed enabled asked, guard_of_proceed enabled asked]
      exact ⟨rfl, rfl, rfl⟩

end GrpcBreakerClient

/-! ## The eight calls -/

namespace BreakerEgress

variable {S μ σ τ ρ : Type} (b : GrpcBreakerClient) (clock : CallClock)
  (inner : Client S μ σ τ ρ)

/-- `call` of the method at `path`. -/
def call (path : String) (request : CallRequest μ) : Around S → Around S × Except CallError ρ :=
  b.around path clock (inner (.call path request))

/-- `call_server_stream`. -/
def callServerStream (path : String) (request : CallRequest μ) :
    Around S → Around S × Except CallError ρ :=
  b.around path clock (inner (.callServerStream path request))

/-- `call_client_stream`. -/
def callClientStream (path : String) (request : CallClientStreamRequest σ) :
    Around S → Around S × Except CallError ρ :=
  b.around path clock (inner (.callClientStream path request))

/-- `call_bidi_stream`. -/
def callBidiStream (path : String) (request : CallClientStreamRequest σ) :
    Around S → Around S × Except CallError ρ :=
  b.around path clock (inner (.callBidiStream path request))

/-- `call_raw`: the request is taken apart and built again. -/
def callRaw (request : CallRawRequest) : Around S → Around S × Except CallError ρ :=
  let ⟨path, message, options⟩ := request
  b.aroundRaw path clock (inner (.callRaw ⟨path, message, options⟩))

/-- `call_raw_server_stream`. -/
def callRawServerStream (request : CallRawRequest) : Around S → Around S × Except CallError ρ :=
  let ⟨path, message, options⟩ := request
  b.aroundRaw path clock (inner (.callRawServerStream ⟨path, message, options⟩))

/-- `call_raw_client_stream`. -/
def callRawClientStream (request : CallRawClientStreamRequest τ) :
    Around S → Around S × Except CallError ρ :=
  let ⟨path, requests, options⟩ := request
  b.aroundRaw path clock (inner (.callRawClientStream ⟨path, requests, options⟩))

/-- `call_raw_bidi_stream`. -/
def callRawBidiStream (request : CallRawClientStreamRequest τ) :
    Around S → Around S × Except CallError ρ :=
  let ⟨path, requests, options⟩ := request
  b.aroundRaw path clock (inner (.callRawBidiStream ⟨path, requests, options⟩))

/-- A call of any of the eight shapes. -/
def make : EgressCall μ σ τ → Around S → Around S × Except CallError ρ
  | .call path request => call b clock inner path request
  | .callServerStream path request => callServerStream b clock inner path request
  | .callClientStream path request => callClientStream b clock inner path request
  | .callBidiStream path request => callBidiStream b clock inner path request
  | .callRaw request => callRaw b clock inner request
  | .callRawServerStream request => callRawServerStream b clock inner request
  | .callRawClientStream request => callRawClientStream b clock inner request
  | .callRawBidiStream request => callRawBidiStream b clock inner request

/-- Every shape is guarded in the same way, around its own request. -/
theorem make_eq_around (call : EgressCall μ σ τ) (s : Around S) :
    make b clock inner call s = b.around call.path clock (inner call) s := by
  cases call with
  | call | callServerStream | callClientStream | callBidiStream => rfl
  | callRaw | callRawServerStream | callRawClientStream | callRawBidiStream =>
    exact b.aroundRaw_eq_around _ clock _ s

end BreakerEgress

/-! ## The state machine on its own -/

/-- The shared state machine as two pure functions that do not fail. -/
structure SharedMachine where
  admitCall : BreakerNode → BreakerConfig → Nat → BreakerNode × Admission
  record : BreakerNode → BreakerConfig → Outcome → Nat → BreakerNode

/-- A call that is made: when it is admitted and recorded, and how the wrapped client
ends whatever call it is given. -/
structure CallOffered (μ σ τ ρ : Type) where
  call : EgressCall μ σ τ
  clock : CallClock
  inner : EgressCall μ σ τ → Except CallError ρ

/-- All that the machine is told about a call: when, and how it ends if it proceeds. -/
def CallOffered.moment {μ σ τ ρ : Type} (offered : CallOffered μ σ τ ρ) : CallClock × Outcome :=
  (offered.clock, outcomeOf (offered.inner offered.call))

/-- What is seen after a call: the node, the calls that the wrapped client was given so
far, oldest first, and how the call ended. -/
structure AfterCall (μ σ τ ρ : Type) where
  node : BreakerNode
  given : List (EgressCall μ σ τ)
  result : Except CallError ρ

namespace SharedMachine

variable {μ σ τ ρ : Type} (m : SharedMachine) (config : GrpcBreakerConfig)

/-- The machine as the decorator calls it. -/
def transition : BreakerTransition where
  admitCall node cfg now := .ok (m.admitCall node cfg now)
  record node cfg outcome now := .ok (m.record node cfg outcome now)

/-- A breaker with this machine. -/
def client : GrpcBreakerClient := ⟨config, m.transition⟩

/-- One move of the machine: it is asked to admit a call and, if that proceeds, told
the outcome. A breaker that is not enabled lets everything proceed. -/
def move (clock : CallClock) (outcome : Outcome) (node : BreakerNode) : BreakerNode × Admission :=
  if config.enabled then
    match m.admitCall node config.toBreakerConfig clock.admitted with
    | (node, .rejectOpen) => (node, .rejectOpen)
    | (node, .proceed) => (m.record node config.toBreakerConfig outcome clock.recorded, .proceed)
  else (node, .proceed)

/-- What should be seen after one call. -/
def answer (offered : CallOffered μ σ τ ρ) (node : BreakerNode) (given : List (EgressCall μ σ τ)) :
    AfterCall μ σ τ ρ :=
  let result := offered.inner offered.call
  match m.move config offered.clock (outcomeOf result) node with
  | (node, .proceed) => ⟨node, given ++ [offered.call], result⟩
  | (node, .rejectOpen) =>
    ⟨node, given, .error (.transport offered.call.path .unavailable
      "grpc-breaker: circuit open, request short-circuited")⟩

/-- What should be seen after each call of a run. -/
def expected (node : BreakerNode) (given : List (EgressCall μ σ τ)) :
    List (CallOffered μ σ τ ρ) → List (AfterCall μ σ τ ρ)
  | [] => []
  | offered :: rest =>
    let seen := m.answer config offered node given
    seen :: expected seen.node seen.given rest

/-- The nodes of a run, from its clock readings and outcomes alone. -/
def nodes (node : BreakerNode) : List (CallClock × Outcome) → List BreakerNode
  | [] => []
  | moment :: rest =>
    let moved := (m.move config moment.1 moment.2 node).1
    moved :: nodes moved rest

end SharedMachine

/-! ## Runs -/

namespace BreakerEgress

variable {μ σ τ ρ : Type} (b : GrpcBreakerClient)

/-- The wrapped client: it keeps every call it is given and ends it as the offer says. -/
def wrapped (offered : CallOffered μ σ τ ρ) : Client (List (EgressCall μ σ τ)) μ σ τ ρ :=
  fun call given => (given ++ [call], offered.inner call)

/-- One call of a run. -/
def offer (offered : CallOffered μ σ τ ρ) (s : Around (List (EgressCall μ σ τ))) :
    Around (List (EgressCall μ σ τ)) × Except CallError ρ :=
  make b offered.clock (wrapped offered) offered.call s

/-- What is seen after each call of a run. -/
def seen (s : Around (List (EgressCall μ σ τ))) :
    List (CallOffered μ σ τ ρ) → List (AfterCall μ σ τ ρ)
  | [] => []
  | offered :: rest =>
    let ran := offer b offered s
    ⟨ran.1.node, ran.1.below, ran.2⟩ :: seen ran.1 rest

variable (m : SharedMachine) (config : GrpcBreakerConfig)

/-- The machine does not fail, so the breaker asks it and nothing else happens. -/
theorem client_admitCall (path : String) (node : BreakerNode) (now : Nat) :
    (m.client config).admitCall path node now =
      ((m.admitCall node config.toBreakerConfig now).1,
        GrpcBreakerClient.verdict path (m.admitCall node config.toBreakerConfig now).2) := rfl

/-- One call is seen as the machine has it, whatever its shape. -/
theorem offer_answer (offered : CallOffered μ σ τ ρ) (s : Around (List (EgressCall μ σ τ))) :
    let ran := offer (m.client config) offered s
    (⟨ran.1.node, ran.1.below, ran.2⟩ : AfterCall μ σ τ ρ) =
      m.answer config offered s.node s.below := by
  have shapeless : offer (m.client config) offered s =
      (m.client config).around offered.call.path offered.clock (wrapped offered offered.call) s :=
    make_eq_around _ _ _ _ _
  dsimp only
  rw [shapeless]
  simp only [SharedMachine.answer, SharedMachine.move, ← classifyResult_eq_outcomeOf]
  cases enabled : config.enabled with
  | false =>
    rw [GrpcBreakerClient.around_of_disabled enabled]
    rfl
  | true =>
    have asked := client_admitCall m config offered.call.path s.node offered.clock.admitted
    rcases answered : m.admitCall s.node config.toBreakerConfig offered.clock.admitted with
      ⟨node, _ | _⟩
    · rw [answered] at asked
      rw [GrpcBreakerClient.around_of_proceed enabled asked]
      rfl
    · rw [answered] at asked
      rw [GrpcBreakerClient.around_of_refused enabled asked]
      rfl

theorem seen_expected (calls : List (CallOffered μ σ τ ρ)) (s : Around (List (EgressCall μ σ τ))) :
    seen (m.client config) s calls = m.expected config s.node s.below calls := by
  induction calls generalizing s with
  | nil => rfl
  | cons offered rest ih =>
    have now := offer_answer m config offered s
    simp only [seen, SharedMachine.expected, ih, ← now]

end BreakerEgress

/-! ## What the machine alone says about a run -/

namespace SharedMachine

variable {μ σ τ ρ : Type} {m : SharedMachine} {config : GrpcBreakerConfig}

/-- A breaker that is not enabled lets every call through and stays where it is. -/
theorem expected_of_disabled (disabled : config.enabled = false) (node : BreakerNode)
    (given : List (EgressCall μ σ τ)) (calls : List (CallOffered μ σ τ ρ)) (i : Nat)
    (offered : CallOffered μ σ τ ρ) (at_i : calls[i]? = some offered) :
    (m.expected config node given calls)[i]? =
      some ⟨node, given ++ (calls.take (i + 1)).map CallOffered.call,
        offered.inner offered.call⟩ := by
  have moved : ∀ (offered : CallOffered μ σ τ ρ) (given : List (EgressCall μ σ τ)),
      m.answer config offered node given =
        ⟨node, given ++ [offered.call], offered.inner offered.call⟩ := by
    intro offered given
    simp only [answer, move, disabled, Bool.false_eq_true, if_false]
  induction calls generalizing given i with
  | nil => cases at_i
  | cons first rest ih =>
    rw [expected, moved]
    cases i with
    | zero =>
      cases at_i
      rfl
    | succ i =>
      rw [List.getElem?_cons_succ] at at_i ⊢
      rw [ih _ i at_i, List.append_assoc]
      rfl

/-- The node after a call is that of the move. -/
theorem answer_node (offered : CallOffered μ σ τ ρ) (node : BreakerNode)
    (given : List (EgressCall μ σ τ)) :
    (m.answer config offered node given).node =
      (m.move config offered.clock (outcomeOf (offered.inner offered.call)) node).1 := by
  simp only [answer]
  rcases m.move config offered.clock (outcomeOf (offered.inner offered.call)) node with
    ⟨moved, _ | _⟩
  · rfl
  · rfl

theorem expected_nodes (calls : List (CallOffered μ σ τ ρ)) (node : BreakerNode)
    (given : List (EgressCall μ σ τ)) :
    (m.expected config node given calls).map AfterCall.node =
      m.nodes config node (calls.map CallOffered.moment) := by
  induction calls generalizing node given with
  | nil => rfl
  | cons offered rest ih =>
    simp only [expected, List.map_cons, nodes, ih, answer_node, CallOffered.moment]

end SharedMachine

open BreakerEgress in
/-- A breaker over a state machine that does not fail. Every run of calls, of any shapes
and with any results, is seen as the machine alone has it: the node moves by `admit` and,
if that let the call proceed, by `record` of the classified result; the wrapped client
is then given the caller's request, once, and its result is returned; a refused call
gives it nothing and fails as an open circuit at the call's own path. The nodes depend on
the clock and the outcomes alone, so a typed and a raw call with the same result move
them alike. A breaker that is not enabled forwards everything and never moves. -/
theorem breaker_refines_machine {μ σ τ ρ : Type} (m : SharedMachine) (config : GrpcBreakerConfig)
    (s : Around (List (EgressCall μ σ τ))) (calls : List (CallOffered μ σ τ ρ)) :
    seen (m.client config) s calls = m.expected config s.node s.below calls ∧
    (seen (m.client config) s calls).map AfterCall.node =
      m.nodes config s.node (calls.map CallOffered.moment) ∧
    (config.enabled = false → ∀ (i : Nat) offered, calls[i]? = some offered →
      (seen (m.client config) s calls)[i]? =
        some ⟨s.node, s.below ++ (calls.take (i + 1)).map CallOffered.call,
          offered.inner offered.call⟩) := by
  rw [seen_expected]
  refine ⟨rfl, SharedMachine.expected_nodes calls _ _, fun disabled i offered at_i => ?_⟩
  exact SharedMachine.expected_of_disabled disabled _ _ calls i offered at_i

namespace SharedMachine

/-- The three-state machine, which never fails. -/
def threeState : SharedMachine where
  admitCall node cfg now :=
    (BreakerTransition.threeState.admitCall node cfg now).toOption.getD (node, .proceed)
  record node cfg outcome now :=
    (BreakerTransition.threeState.record node cfg outcome now).toOption.getD node

end SharedMachine

/-- Calls of three shapes around a peer that is down at first: the first fails, the second
comes while the circuit is open, the third after the cool-down. -/
def downAtFirst : List (CallOffered Unit Unit Unit Unit) :=
  [⟨.call "/test.Peer/Echo" ⟨(), ⟨none, .empty⟩⟩, ⟨0, 5⟩,
      fun _ => .error (.status "/test.Peer/Echo" .unavailable "down" .empty)⟩,
    ⟨.callRaw ⟨"/test.Peer/Read", [1], ⟨none, .empty⟩⟩, ⟨6, 7⟩, fun _ => .ok ()⟩,
    ⟨.callRawBidiStream ⟨"/test.Peer/Chat", (), ⟨none, .empty⟩⟩, ⟨1000000005, 1000000006⟩,
      fun _ => .ok ()⟩]

open BreakerEgress in
/-- `breaker_refines_machine` for these calls: the failure opens the circuit, the second call
is refused and the third closes the circuit; a breaker that is not enabled forwards them all. -/
theorem breaker_refines_machine_three :
    seen (SharedMachine.threeState.client oneFailureConfig) ⟨.start, [], []⟩ downAtFirst =
      [⟨⟨.opened 5, 0, 0⟩, (downAtFirst.take 1).map CallOffered.call,
          .error (.status "/test.Peer/Echo" .unavailable "down" .empty)⟩,
        ⟨⟨.opened 5, 0, 0⟩, (downAtFirst.take 1).map CallOffered.call,
          .error (.transport "/test.Peer/Read" .unavailable
            "grpc-breaker: circuit open, request short-circuited")⟩,
        ⟨.start, [downAtFirst[0].call, downAtFirst[2].call], .ok ()⟩] ∧
    (seen (SharedMachine.threeState.client { oneFailureConfig with enabled := false })
      ⟨⟨.opened 5, 0, 0⟩, [], []⟩ downAtFirst)[2]? =
        some ⟨⟨.opened 5, 0, 0⟩, downAtFirst.map CallOffered.call, .ok ()⟩ :=
  ⟨(breaker_refines_machine SharedMachine.threeState oneFailureConfig ⟨.start, [], []⟩
      downAtFirst).1.trans rfl,
    (breaker_refines_machine SharedMachine.threeState { oneFailureConfig with enabled := false }
      ⟨⟨.opened 5, 0, 0⟩, [], []⟩ downAtFirst).2.2 rfl 2 _ rfl⟩

end GrpcEgress
