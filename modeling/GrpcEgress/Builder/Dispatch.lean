import GrpcEgress.Builder.Secure
import GrpcEgress.Contract.Calls
import GrpcEgress.Lib.Runs

/-!
# Calls of an endpoint

The clients of an endpoint and its pool are made from the same settings, and they meet only
at a call: the pool selects a backend, and the client is looked up by its URL. Each of the
eight calls picks, sends, waits for its client, reports to the pool and returns.

`step` is one side of the wait, of any call; any number of calls wait at the same time. What
the pool selects and what a client answers is in the action, so that every pool and every
client is covered, whatever they do with what they were given before. `notes` is a ghost,
oldest first: what was sent, reported and returned, and for which call.

Results:
1. `pickBackend_selected`, `pickBackend_unselected`, `pickBackend_single`: what a built
   endpoint picks;
2. `step_cases`: all that a step can do; `calls_run`: what a run notes of each call;
3. `calls_accounted`: every call is sent once, to a client of the backend that was selected
   for it, and reported once.
-/

namespace GrpcEgress

open Runs

/-! ## The eight calls -/

/-- `Backend`, as far as the endpoint reads it. -/
structure Backend where
  id : String
  url : String
deriving DecidableEq

/-- `Outcome` of the load balancer. -/
inductive BackendOutcome where
  | success
  | failure (reason : String)
deriving DecidableEq

/-- `Pick`. -/
structure Pick where
  client : TonicOptions
  backend : Option Backend
deriving DecidableEq

namespace EndpointTransport

variable {μ σ τ ρ : Type}

/-- `judge_outcome`; `display` is how the error is written. -/
def judgeOutcome (display : CallError → String) : Except CallError ρ → BackendOutcome
  | .error (.transport path code reason) =>
    match code with
    | .unavailable | .unknown => .failure (display (.transport path code reason))
    | _ => .success
  | .error (.status path code message trailers) =>
    match code with
    | .deadlineExceeded => .failure (display (.status path code message trailers))
    | _ => .success
  | .error (.encode _) | .error (.decode _) | .ok _ => .success

section

variable (transport : EndpointTransport) (selected : Except String Backend)

/-- `pick`, with the backend that the outcome is reported of. -/
def pickBackend (path : String) : Except CallError Pick :=
  (transport.pick (selected.map Backend.url) path).map fun client =>
    ⟨client, if transport.pool.isSome then selected.toOption else none⟩

/-- `report`: the id and the outcome that the pool is told. -/
def report (display : CallError → String) (pick : Pick) (result : Except CallError ρ) :
    Option (String × BackendOutcome) :=
  match transport.pool, pick.backend with
  | some _, some backend => some (backend.id, judgeOutcome display result)
  | _, _ => none

/-- What the eight calls do until they wait for their client. -/
def dispatch (path : String) (sent : EgressCall μ σ τ) :
    Except CallError (Pick × EgressCall μ σ τ) := do
  let pick ← transport.pickBackend selected path
  pure (pick, sent)

/-- `call`. -/
def call (path : String) (request : CallRequest μ) :
    Except CallError (Pick × EgressCall μ σ τ) :=
  transport.dispatch selected path (.call path request)

/-- `call_server_stream`. -/
def callServerStream (path : String) (request : CallRequest μ) :
    Except CallError (Pick × EgressCall μ σ τ) :=
  transport.dispatch selected path (.callServerStream path request)

/-- `call_client_stream`. -/
def callClientStream (path : String) (request : CallClientStreamRequest σ) :
    Except CallError (Pick × EgressCall μ σ τ) :=
  transport.dispatch selected path (.callClientStream path request)

/-- `call_bidi_stream`. -/
def callBidiStream (path : String) (request : CallClientStreamRequest σ) :
    Except CallError (Pick × EgressCall μ σ τ) :=
  transport.dispatch selected path (.callBidiStream path request)

/-- `call_raw`. A raw request is taken apart and put together again. -/
def callRaw (request : CallRawRequest) : Except CallError (Pick × EgressCall μ σ τ) :=
  transport.dispatch selected request.path
    (.callRaw ⟨request.path, request.message, request.options⟩)

/-- `call_raw_server_stream`. -/
def callRawServerStream (request : CallRawRequest) : Except CallError (Pick × EgressCall μ σ τ) :=
  transport.dispatch selected request.path
    (.callRawServerStream ⟨request.path, request.message, request.options⟩)

/-- `call_raw_client_stream`. -/
def callRawClientStream (request : CallRawClientStreamRequest τ) :
    Except CallError (Pick × EgressCall μ σ τ) :=
  transport.dispatch selected request.path
    (.callRawClientStream ⟨request.path, request.requests, request.options⟩)

/-- `call_raw_bidi_stream`. -/
def callRawBidiStream (request : CallRawClientStreamRequest τ) :
    Except CallError (Pick × EgressCall μ σ τ) :=
  transport.dispatch selected request.path
    (.callRawBidiStream ⟨request.path, request.requests, request.options⟩)

/-- `Transport` and `RawTransport`, until a call waits for its client. -/
def send : EgressCall μ σ τ → Except CallError (Pick × EgressCall μ σ τ)
  | .call path request => transport.call selected path request
  | .callServerStream path request => transport.callServerStream selected path request
  | .callClientStream path request => transport.callClientStream selected path request
  | .callBidiStream path request => transport.callBidiStream selected path request
  | .callRaw request => transport.callRaw selected request
  | .callRawServerStream request => transport.callRawServerStream selected request
  | .callRawClientStream request => transport.callRawClientStream selected request
  | .callRawBidiStream request => transport.callRawBidiStream selected request

end

end EndpointTransport

/-! ## Calls that overlap -/

/-- Where a call stands. -/
inductive DispatchPhase where
  | entering
  /-- The client has the call. -/
  | waiting (pick : Pick)
  | done
deriving DecidableEq

/-- What happens: call `k` is made, and the pool selects, or its client answers it. -/
inductive DispatchAct (ρ : Type) where
  | start (k : Nat) (selected : Except String Backend)
  | answer (k : Nat) (result : Except CallError ρ)

/-- What is noted. -/
inductive DispatchNote (μ σ τ ρ : Type) where
  /-- A client was given the call. -/
  | sent (k : Nat) (client : TonicOptions) (call : EgressCall μ σ τ)
  /-- The pool was told an outcome of a backend. -/
  | reported (k : Nat) (backend : String) (outcome : BackendOutcome)
  /-- The call returned. -/
  | ended (k : Nat) (result : Except CallError ρ)

/-- The calls of an endpoint. Call `k` is the call of that number. -/
structure Dispatch (μ σ τ ρ : Type) where
  phase : Nat → DispatchPhase
  notes : List (DispatchNote μ σ τ ρ)

/-- The call that does it. -/
def DispatchAct.call {ρ : Type} : DispatchAct ρ → Nat
  | .start k _ | .answer k _ => k

/-- The call that it is noted for. -/
def DispatchNote.call {μ σ τ ρ : Type} : DispatchNote μ σ τ ρ → Nat
  | .sent k _ _ | .reported k _ _ | .ended k _ => k

namespace Dispatch

variable {μ σ τ ρ : Type}

/-- No call has been made. -/
def start : Dispatch μ σ τ ρ := ⟨fun _ => .entering, []⟩

/-- The call moves to another phase, and what it did is noted. -/
def move (s : Dispatch μ σ τ ρ) (k : Nat) (dest : DispatchPhase)
    (notes : List (DispatchNote μ σ τ ρ)) : Dispatch μ σ τ ρ :=
  ⟨fun i => if i = k then dest else s.phase i, s.notes ++ notes⟩

/-- The notes of one call. -/
def notesOf (s : Dispatch μ σ τ ρ) (k : Nat) : List (DispatchNote μ σ τ ρ) :=
  s.notes.filter fun note => note.call == k

/-- What is noted when a client has answered. -/
def answerNotes (transport : EndpointTransport) (display : CallError → String) (k : Nat)
    (pick : Pick) (result : Except CallError ρ) : List (DispatchNote μ σ τ ρ) :=
  (transport.report display pick result).toList.map (fun r => .reported k r.1 r.2) ++
    [.ended k result]

/-- A call up to the wait, or after it. -/
def step (transport : EndpointTransport) (display : CallError → String)
    (calls : Nat → EgressCall μ σ τ) (s : Dispatch μ σ τ ρ) :
    DispatchAct ρ → Option (Dispatch μ σ τ ρ)
  | .start k selected =>
    match s.phase k with
    | .entering =>
      match transport.send selected (calls k) with
      | .ok (pick, sent) => some (s.move k (.waiting pick) [.sent k pick.client sent])
      | .error e => some (s.move k .done [.ended k (.error e)])
    | _ => none
  | .answer k result =>
    match s.phase k with
    | .waiting pick => some (s.move k .done (answerNotes transport display k pick result))
    | _ => none

end Dispatch

/-! ## What is picked -/

/-- The failures that count against a backend. -/
def CallError.BackendAtFault : CallError → Prop
  | .transport _ code _ => code = .unavailable ∨ code = .unknown
  | .status _ code _ _ => code = .deadlineExceeded
  | .encode _ | .decode _ => False

instance : (e : CallError) → Decidable e.BackendAtFault
  | .transport _ code _ => inferInstanceAs (Decidable (code = .unavailable ∨ code = .unknown))
  | .status _ code _ _ => inferInstanceAs (Decidable (code = .deadlineExceeded))
  | .encode _ | .decode _ => .isFalse id

/-- What an answer says of the backend that gave it. -/
def backendOutcomeOf {ρ : Type} (display : CallError → String) :
    Except CallError ρ → BackendOutcome
  | .error e => if e.BackendAtFault then .failure (display e) else .success
  | .ok _ => .success

/-- The client that a call goes to, with the backend that is reported of: without a pool the
first one, and with a pool the one under the URL of the backend that was selected. -/
inductive Chosen (transport : EndpointTransport) :
    Except String Backend → TonicOptions → Option Backend → Prop
  | single {selected : Except String Backend} {url : String} {client : TonicOptions}
      {others : List (String × TonicOptions)} :
      transport.pool = none → transport.clients = (url, client) :: others →
      Chosen transport selected client none
  | balanced {backend : Backend} {client : TonicOptions} :
      transport.pool.isSome →
      transport.clients.find? (fun entry => entry.1 == backend.url) = some (backend.url, client) →
      Chosen transport (.ok backend) client (some backend)

/-- Why a call to `path` goes to no client. -/
inductive Unchosen (transport : EndpointTransport) (path : String) :
    Except String Backend → CallError → Prop
  | single {selected : Except String Backend} :
      transport.pool = none → transport.clients = [] →
      Unchosen transport path selected
        (.transport path .internal "the endpoint has no client")
  | unselected {reason : String} :
      transport.pool.isSome →
      Unchosen transport path (.error reason) (.transport path .unavailable reason)
  | balanced {backend : Backend} :
      transport.pool.isSome → (∀ entry ∈ transport.clients, entry.1 ≠ backend.url) →
      Unchosen transport path (.ok backend)
        (.transport path .internal "the pool picked a backend that has no client")

namespace EndpointTransport

variable {μ σ τ ρ : Type} {transport : EndpointTransport} {selected : Except String Backend}
  {path : String}

theorem judgeOutcome_failure_iff {display : CallError → String} {result : Except CallError ρ} :
    (∃ reason, judgeOutcome display result = .failure reason) ↔
      ∃ e, result = .error e ∧ e.BackendAtFault := by
  cases result with
  | ok response => simp [judgeOutcome]
  | error e =>
    cases e with
    | transport path code reason =>
      cases code <;> simp [judgeOutcome, CallError.BackendAtFault]
    | status path code message trailers =>
      cases code <;> simp [judgeOutcome, CallError.BackendAtFault]
    | encode reason => simp [judgeOutcome, CallError.BackendAtFault]
    | decode reason => simp [judgeOutcome, CallError.BackendAtFault]

theorem judgeOutcome_eq_backendOutcomeOf (display : CallError → String)
    (result : Except CallError ρ) :
    judgeOutcome display result = backendOutcomeOf display result := by
  unfold backendOutcomeOf
  split
  · next e =>
    split
    · next fault =>
      cases e with
      | transport path code reason => rcases fault with rfl | rfl <;> rfl
      | status path code message trailers =>
        cases fault
        rfl
      | encode reason | decode reason => cases fault
    · next blameless =>
      cases judged : judgeOutcome display (.error e : Except CallError ρ) with
      | success => rfl
      | failure reason =>
        obtain ⟨other, is, fault⟩ := judgeOutcome_failure_iff.mp ⟨reason, judged⟩
        cases is
        exact absurd fault blameless
  · rfl

theorem report_of_pool {display : CallError → String} (pooled : transport.pool.isSome = true)
    (client : TonicOptions) (backend : Backend) (result : Except CallError ρ) :
    transport.report display ⟨client, some backend⟩ result =
      some (backend.id, judgeOutcome display result) := by
  obtain ⟨pool, pooled⟩ := Option.isSome_iff_exists.mp pooled
  unfold report
  rw [pooled]

theorem report_no_backend {display : CallError → String} (client : TonicOptions)
    (result : Except CallError ρ) : transport.report display ⟨client, none⟩ result = none := by
  unfold report
  split
  · next absent => cases absent
  · rfl

theorem report_of_chosen {display : CallError → String} {pick : Pick}
    (chosen : Chosen transport selected pick.client pick.backend) (result : Except CallError ρ) :
    transport.report display pick result =
      pick.backend.map fun backend => (backend.id, backendOutcomeOf display result) := by
  obtain ⟨client, backend⟩ := pick
  cases chosen with
  | single => exact report_no_backend client result
  | @balanced backend client pooled =>
    rw [report_of_pool pooled, judgeOutcome_eq_backendOutcomeOf]
    rfl

theorem chosen_of_pickBackend {pick : Pick}
    (picked : transport.pickBackend selected path = .ok pick) :
    Chosen transport selected pick.client pick.backend := by
  unfold pickBackend EndpointTransport.pick at picked
  cases pool : transport.pool with
  | none =>
    cases clients : transport.clients with
    | nil =>
      rw [pool, clients] at picked
      cases picked
    | cons entry others =>
      rw [pool, clients] at picked
      cases picked
      exact .single pool clients
  | some config =>
    have pooled : transport.pool.isSome := Option.isSome_iff_exists.mpr ⟨config, pool⟩
    rw [pool] at picked
    cases selected with
    | error reason => cases picked
    | ok backend =>
      simp only [Except.map] at picked
      cases found : transport.clients.find? (fun entry => entry.1 == backend.url) with
      | none =>
        rw [found] at picked
        cases picked
      | some entry =>
        rw [found] at picked
        cases picked
        have under := List.find?_some found
        have same : entry = (backend.url, entry.2) := by rw [← beq_iff_eq.mp under]
        exact .balanced pooled (found.trans (congrArg some same))

theorem unchosen_of_pickBackend {e : CallError}
    (refused : transport.pickBackend selected path = .error e) :
    Unchosen transport path selected e := by
  unfold pickBackend EndpointTransport.pick at refused
  cases pool : transport.pool with
  | none =>
    cases clients : transport.clients with
    | nil =>
      rw [pool, clients] at refused
      cases refused
      exact .single pool clients
    | cons entry others =>
      rw [pool, clients] at refused
      cases refused
  | some config =>
    have pooled : transport.pool.isSome := Option.isSome_iff_exists.mpr ⟨config, pool⟩
    rw [pool] at refused
    cases selected with
    | error reason =>
      cases refused
      exact .unselected pooled
    | ok backend =>
      simp only [Except.map] at refused
      cases found : transport.clients.find? (fun entry => entry.1 == backend.url) with
      | none =>
        rw [found] at refused
        cases refused
        refine .balanced pooled fun entry listed same => ?_
        exact List.find?_eq_none.mp found entry listed (beq_iff_eq.mpr same)
      | some entry =>
        rw [found] at refused
        cases refused

/-- Each of the eight calls is given to the client as it is. -/
theorem send_eq (call : EgressCall μ σ τ) : transport.send selected call =
    (transport.pickBackend selected call.path).map fun pick => (pick, call) := by
  cases call <;> rfl

theorem send_eq_ok {call sent : EgressCall μ σ τ} {pick : Pick} :
    transport.send selected call = .ok (pick, sent) ↔
      transport.pickBackend selected call.path = .ok pick ∧ sent = call := by
  rw [send_eq]
  cases transport.pickBackend selected call.path with
  | error e => simp [Except.map]
  | ok picked => simp [Except.map, eq_comm]

theorem send_eq_error {call : EgressCall μ σ τ} {e : CallError} :
    transport.send selected call = .error e ↔
      transport.pickBackend selected call.path = .error e := by
  rw [send_eq]
  cases transport.pickBackend selected call.path with
  | error e => simp [Except.map]
  | ok picked => simp [Except.map]

end EndpointTransport

namespace GrpcEgressBuilderImpl

variable {b : GrpcEgressBuilderImpl} {outside : Outside} {client : BuiltClient}

/-- The client of a target is found under its URL, however often the URL is listed. -/
theorem find_targetClients {tls : TlsSettings} {url : String} (target : url ∈ b.targets) :
    (b.targetClients tls).find? (fun entry => entry.1 == url) =
      some (url, b.targetOptions tls url) := by
  have listed : b.targets.find? (fun other => other == url) = some url := by
    cases found : b.targets.find? (fun other => other == url) with
    | none => exact absurd (beq_self_eq_true url) (List.find?_eq_none.mp found url target)
    | some other =>
      have same := List.find?_some found
      rw [beq_iff_eq.mp same]
  unfold targetClients
  rw [List.find?_map]
  exact congrArg (Option.map fun url => (url, b.targetOptions tls url)) listed

theorem target_mem {settings : LoadbalancerSettings} (balanced : b.loadbalancer = some settings)
    {url : String} (target : url ∈ settings.backends.map BackendTarget.url) : url ∈ b.targets := by
  unfold GrpcEgressBuilderImpl.targets
  rw [balanced]
  exact target

/-- There is a pool exactly when there are balancing settings. -/
theorem build_pool (built : b.build outside = .returned client) :
    client.endpoint.pool.isSome = b.loadbalancer.isSome := by
  obtain ⟨-, -, -, -, tls, clients, endpoint, -, -, made, rfl⟩ := build_eq_returned.mp built
  rcases tryFrom_eq_ok.mp made with ⟨single, rfl⟩ | ⟨settings, pool, balanced, -, rfl⟩
  · rw [single]
    rfl
  · rw [balanced]
    rfl

/-- The backend that was selected gets the call, if its URL is a configured one. -/
theorem pickBackend_selected {settings : LoadbalancerSettings} {tls : TlsSettings}
    (built : b.build outside = .returned client)
    (clients : client.endpoint.clients = b.targetClients tls)
    (balanced : b.loadbalancer = some settings) {backend : Backend}
    (target : backend.url ∈ settings.backends.map BackendTarget.url) (path : String) :
    client.endpoint.pickBackend (.ok backend) path =
      .ok ⟨b.targetOptions tls backend.url, some backend⟩ := by
  have pooled := build_pool built
  rw [balanced] at pooled
  have member := target_mem balanced target
  obtain ⟨pool, pooled⟩ := Option.isSome_iff_exists.mp pooled
  unfold EndpointTransport.pickBackend EndpointTransport.pick
  rw [pooled, clients]
  simp only [Except.map, find_targetClients member]
  rfl

/-- A pool that selects nothing is the only refusal of a balanced call. -/
theorem pickBackend_unselected {settings : LoadbalancerSettings}
    (built : b.build outside = .returned client) (balanced : b.loadbalancer = some settings)
    (path reason : String) :
    client.endpoint.pickBackend (.error reason) path =
      .error (.transport path .unavailable reason) := by
  have pooled := build_pool built
  rw [balanced] at pooled
  obtain ⟨pool, pooled⟩ := Option.isSome_iff_exists.mp pooled
  unfold EndpointTransport.pickBackend EndpointTransport.pick
  rw [pooled]
  rfl

/-- Without balancing the client of the endpoint gets every call. -/
theorem pickBackend_single {tls : TlsSettings} (built : b.build outside = .returned client)
    (clients : client.endpoint.clients = b.targetClients tls) (single : b.loadbalancer = none)
    (selected : Except String Backend) (path : String) :
    client.endpoint.pickBackend selected path =
      .ok ⟨b.targetOptions tls b.endpoint, none⟩ := by
  have pooled := build_pool built
  rw [single] at pooled
  have absent : client.endpoint.pool = none :=
    Option.isNone_iff_eq_none.mp (Option.isSome_eq_false_iff.mp pooled)
  have one : b.targetClients tls = [(b.endpoint, b.targetOptions tls b.endpoint)] := by
    unfold targetClients GrpcEgressBuilderImpl.targets
    rw [single]
    rfl
  unfold EndpointTransport.pickBackend EndpointTransport.pick
  rw [absent, clients, one]
  rfl

end GrpcEgressBuilderImpl

/-! ## Runs of calls -/

namespace Dispatch

variable {μ σ τ ρ : Type} {transport : EndpointTransport} {display : CallError → String}
  {calls : Nat → EgressCall μ σ τ} {s s' : Dispatch μ σ τ ρ}

/-- A step refuses a call, sends one, or returns one. -/
theorem step_cases {a : DispatchAct ρ} (stepped : step transport display calls s a = some s') :
    (∃ k selected e, a = .start k selected ∧ s.phase k = .entering ∧
      transport.send selected (calls k) = .error e ∧
      s' = s.move k .done [.ended k (.error e)]) ∨
    (∃ k selected pick sent, a = .start k selected ∧ s.phase k = .entering ∧
      transport.send selected (calls k) = .ok (pick, sent) ∧
      s' = s.move k (.waiting pick) [.sent k pick.client sent]) ∨
    (∃ k pick result, a = .answer k result ∧ s.phase k = .waiting pick ∧
      s' = s.move k .done (answerNotes transport display k pick result)) := by
  cases a with
  | start k selected =>
    simp only [step] at stepped
    split at stepped
    · next entering =>
      split at stepped
      · next pick sent ran =>
        cases stepped
        exact .inr (.inl ⟨k, selected, pick, sent, rfl, entering, ran, rfl⟩)
      · next e ran =>
        cases stepped
        exact .inl ⟨k, selected, e, rfl, entering, ran, rfl⟩
    · cases stepped
  | answer k result =>
    simp only [step] at stepped
    split at stepped
    · next pick waiting =>
      cases stepped
      exact .inr (.inr ⟨k, pick, result, rfl, waiting, rfl⟩)
    · cases stepped

/-- What one call has done: the acts of it, where it stands, and what is noted of it. -/
inductive CallRun (transport : EndpointTransport) (display : CallError → String) (k : Nat)
    (call : EgressCall μ σ τ) :
    List (DispatchAct ρ) → DispatchPhase → List (DispatchNote μ σ τ ρ) → Prop
  | entering : CallRun transport display k call [] .entering []
  | refused {selected : Except String Backend} {e : CallError} :
      transport.send selected call = .error e →
      CallRun transport display k call [.start k selected] .done [.ended k (.error e)]
  | waiting {selected : Except String Backend} {pick : Pick} {sent : EgressCall μ σ τ} :
      transport.send selected call = .ok (pick, sent) →
      CallRun transport display k call [.start k selected] (.waiting pick)
        [.sent k pick.client sent]
  | returned {selected : Except String Backend} {pick : Pick} {sent : EgressCall μ σ τ}
      {result : Except CallError ρ} : transport.send selected call = .ok (pick, sent) →
      CallRun transport display k call [.start k selected, .answer k result] .done
        (.sent k pick.client sent :: answerNotes transport display k pick result)

/-- The acts of one call. -/
def actsOf (acts : List (DispatchAct ρ)) (k : Nat) : List (DispatchAct ρ) :=
  acts.filter fun a => a.call == k

/-- A call that has not been made has done nothing. -/
theorem CallRun.of_entering {k : Nat} {call : EgressCall μ σ τ} {acts : List (DispatchAct ρ)}
    {notes : List (DispatchNote μ σ τ ρ)}
    (ran : CallRun transport display k call acts .entering notes) : acts = [] ∧ notes = [] := by
  cases ran
  exact ⟨rfl, rfl⟩

/-- A call that waits was made and sent. -/
theorem CallRun.of_waiting {k : Nat} {call : EgressCall μ σ τ} {acts : List (DispatchAct ρ)}
    {notes : List (DispatchNote μ σ τ ρ)} {pick : Pick}
    (ran : CallRun transport display k call acts (.waiting pick) notes) :
    ∃ selected sent, transport.send selected call = .ok (pick, sent) ∧
      acts = [.start k selected] ∧ notes = [.sent k pick.client sent] := by
  cases ran with
  | waiting picked => exact ⟨_, _, picked, rfl, rfl⟩

theorem call_answerNotes {k : Nat} {pick : Pick} {result : Except CallError ρ}
    {note : DispatchNote μ σ τ ρ} (member : note ∈ answerNotes transport display k pick result) :
    note.call = k := by
  rcases List.mem_append.mp member with told | ended
  · obtain ⟨r, -, rfl⟩ := List.mem_map.mp told
    rfl
  · rw [List.mem_singleton.mp ended]
    rfl

theorem answerNotes_of_chosen {selected : Except String Backend} {pick : Pick}
    (chosen : Chosen transport selected pick.client pick.backend) (k : Nat)
    (result : Except CallError ρ) :
    (answerNotes transport display k pick result : List (DispatchNote μ σ τ ρ)) =
      (pick.backend.toList.map fun backend =>
        .reported k backend.id (backendOutcomeOf display result)) ++ [.ended k result] := by
  unfold answerNotes
  rw [EndpointTransport.report_of_chosen chosen]
  cases pick.backend with
  | none => rfl
  | some backend => rfl

section

variable {k i : Nat} {dest : DispatchPhase} {notes : List (DispatchNote μ σ τ ρ)}

@[simp] theorem move_phase_self : (s.move k dest notes).phase k = dest := if_pos rfl

theorem move_phase_other (other : i ≠ k) : (s.move k dest notes).phase i = s.phase i :=
  if_neg other

theorem notesOf_move_self (own : ∀ note ∈ notes, note.call = k) :
    (s.move k dest notes).notesOf k = s.notesOf k ++ notes := by
  have all : notes.filter (fun note => note.call == k) = notes :=
    List.filter_eq_self.mpr fun note member => beq_iff_eq.mpr (own note member)
  show (s.notes ++ notes).filter _ = _
  rw [List.filter_append, all]
  rfl

theorem notesOf_move_other (own : ∀ note ∈ notes, note.call = k) (other : i ≠ k) :
    (s.move k dest notes).notesOf i = s.notesOf i := by
  have none : notes.filter (fun note => note.call == i) = [] := by
    refine List.filter_eq_nil_iff.mpr fun note member same => other ?_
    rw [← own note member, beq_iff_eq.mp same]
  show (s.notes ++ notes).filter _ = _
  rw [List.filter_append, none, List.append_nil]
  rfl

end

theorem actsOf_self {past : List (DispatchAct ρ)} {a : DispatchAct ρ} :
    actsOf (past ++ [a]) a.call = actsOf past a.call ++ [a] := by
  unfold actsOf
  rw [List.filter_append]
  simp

theorem actsOf_other {past : List (DispatchAct ρ)} {a : DispatchAct ρ} {k : Nat}
    (other : k ≠ a.call) : actsOf (past ++ [a]) k = actsOf past k := by
  unfold actsOf
  rw [List.filter_append]
  simp [other.symm]

/-- A step is a move of its call. -/
theorem step_moves {a : DispatchAct ρ} (stepped : step transport display calls s a = some s') :
    ∃ dest notes, (∀ note ∈ notes, note.call = a.call) ∧ s' = s.move a.call dest notes := by
  rcases step_cases stepped with ⟨k, selected, e, rfl, -, -, rfl⟩ |
    ⟨k, selected, pick, sent, rfl, -, -, rfl⟩ | ⟨k, pick, result, rfl, -, rfl⟩
  · exact ⟨_, _, List.forall_mem_singleton.mpr rfl, rfl⟩
  · exact ⟨_, _, List.forall_mem_singleton.mpr rfl, rfl⟩
  · exact ⟨_, _, fun _ => call_answerNotes, rfl⟩

/-- The call of a step goes on from where it stands. -/
theorem CallRun.step {a : DispatchAct ρ} {past : List (DispatchAct ρ)}
    (ran : CallRun transport display a.call (calls a.call) (actsOf past a.call) (s.phase a.call)
      (s.notesOf a.call)) (stepped : step transport display calls s a = some s') :
    CallRun transport display a.call (calls a.call) (actsOf (past ++ [a]) a.call)
      (s'.phase a.call) (s'.notesOf a.call) := by
  rw [actsOf_self]
  rcases step_cases stepped with ⟨k, selected, e, rfl, entering, refused, rfl⟩ |
    ⟨k, selected, pick, sent, rfl, entering, picked, rfl⟩ | ⟨k, pick, result, rfl, waiting, rfl⟩
  · obtain ⟨acts, notes⟩ := CallRun.of_entering (entering ▸ ran)
    have noted : (s.move k .done [.ended k (.error e)]).notesOf k =
        s.notesOf k ++ [.ended k (.error e)] :=
      notesOf_move_self (List.forall_mem_singleton.mpr rfl)
    simp only [DispatchAct.call] at acts notes ⊢
    rw [noted, move_phase_self, acts, notes]
    exact .refused refused
  · obtain ⟨acts, notes⟩ := CallRun.of_entering (entering ▸ ran)
    have noted : (s.move k (.waiting pick) [.sent k pick.client sent]).notesOf k =
        s.notesOf k ++ [.sent k pick.client sent] :=
      notesOf_move_self (List.forall_mem_singleton.mpr rfl)
    simp only [DispatchAct.call] at acts notes ⊢
    rw [noted, move_phase_self, acts, notes]
    exact .waiting picked
  · obtain ⟨selected, sent, picked, acts, notes⟩ := CallRun.of_waiting (waiting ▸ ran)
    simp only [DispatchAct.call] at acts notes ⊢
    rw [notesOf_move_self fun _ => call_answerNotes, move_phase_self, acts, notes]
    exact .returned picked

/-- After any run, every call has done what its own acts say. -/
theorem calls_run {acts : List (DispatchAct ρ)} {t : Dispatch μ σ τ ρ}
    (ran : run (step transport display calls) start acts = some t) (k : Nat) :
    CallRun transport display k (calls k) (actsOf acts k) (t.phase k) (t.notesOf k) := by
  let Inv (past : List (DispatchAct ρ)) (s : Dispatch μ σ τ ρ) : Prop := ∀ k,
    CallRun transport display k (calls k) (actsOf past k) (s.phase k) (s.notesOf k)
  have first : Inv [] start := fun _ => .entering
  have keeps : ∀ past s a s', Inv past s → step transport display calls s a = some s' →
      Inv (past ++ [a]) s' := by
    intro past s a s' before stepped k
    by_cases mine : k = a.call
    · rw [mine]
      exact (before a.call).step stepped
    · obtain ⟨dest, notes, own, rfl⟩ := step_moves stepped
      rw [actsOf_other mine, move_phase_other mine, notesOf_move_other own mine]
      exact before k
  exact run_history Inv keeps first ran k

/-- A call that was made is noted once: it was sent to `client`, and when it was answered
`told` and the answer follow. -/
structure SentOnce (acts : List (DispatchAct ρ)) (s : Dispatch μ σ τ ρ) (k : Nat)
    (call : EgressCall μ σ τ) (client : TonicOptions)
    (told : Except CallError ρ → List (DispatchNote μ σ τ ρ)) : Prop where
  waiting : (∀ result, .answer k result ∉ acts) → s.notesOf k = [.sent k client call]
  answered : ∀ result, .answer k result ∈ acts →
    s.notesOf k = .sent k client call :: (told result ++ [.ended k result])

section

variable {acts : List (DispatchAct ρ)} {k : Nat} {call : EgressCall μ σ τ} {phase : DispatchPhase}
  {notes : List (DispatchNote μ σ τ ρ)} {selected : Except String Backend}

theorem CallRun.of_unmade (ran : CallRun transport display k call acts phase notes)
    (unmade : ∀ selected, .start k selected ∉ acts) : notes = [] := by
  cases ran with
  | entering => rfl
  | refused => exact absurd List.mem_cons_self (unmade _)
  | waiting => exact absurd List.mem_cons_self (unmade _)
  | returned => exact absurd List.mem_cons_self (unmade _)

/-- A call for which nothing is picked is refused, and nothing else is noted of it. -/
theorem CallRun.of_refused (ran : CallRun transport display k call acts phase notes)
    (made : .start k selected ∈ acts) {e : CallError}
    (refused : transport.send selected call = .error e) : notes = [.ended k (.error e)] := by
  cases ran with
  | entering => cases made
  | refused other =>
    cases List.mem_singleton.mp made
    cases other.symm.trans refused
    rfl
  | waiting picked =>
    cases List.mem_singleton.mp made
    cases picked.symm.trans refused
  | returned picked =>
    have same := (List.mem_cons.mp made).resolve_right fun later => by
      cases List.mem_singleton.mp later
    cases same
    cases picked.symm.trans refused

/-- A call for which a client is picked is sent to it, and returns what it answers. -/
theorem CallRun.of_picked (ran : CallRun transport display k call acts phase notes)
    (made : .start k selected ∈ acts) {pick : Pick}
    (picked : transport.send selected call = .ok (pick, call)) :
    ((∀ result, .answer k result ∉ acts) → notes = [.sent k pick.client call]) ∧
    ∀ result, .answer k result ∈ acts →
      notes = .sent k pick.client call :: answerNotes transport display k pick result := by
  cases ran with
  | entering => cases made
  | refused other =>
    cases List.mem_singleton.mp made
    cases other.symm.trans picked
  | waiting other =>
    cases List.mem_singleton.mp made
    cases other.symm.trans picked
    refine ⟨fun _ => rfl, fun result answered => ?_⟩
    cases List.mem_singleton.mp answered
  | returned other =>
    have same := (List.mem_cons.mp made).resolve_right fun later => by
      cases List.mem_singleton.mp later
    cases same
    cases other.symm.trans picked
    refine ⟨fun waits => absurd (List.mem_cons_of_mem _ List.mem_cons_self) (waits _), ?_⟩
    intro result answered
    have mine := (List.mem_cons.mp answered).resolve_left nofun
    cases List.mem_singleton.mp mine
    rfl

theorem mem_actsOf {a : DispatchAct ρ} (own : a.call = k) : a ∈ actsOf acts k ↔ a ∈ acts := by
  rw [actsOf, List.mem_filter, own, and_iff_left (beq_self_eq_true k)]

end

section

variable {acts : List (DispatchAct ρ)} {t : Dispatch μ σ τ ρ}
  (ran : run (step transport display calls) start acts = some t)

include ran

theorem notesOf_unmade {k : Nat} (unmade : ∀ selected, .start k selected ∉ acts) :
    t.notesOf k = [] :=
  (calls_run ran k).of_unmade fun selected member => unmade selected ((mem_actsOf rfl).mp member)

theorem notesOf_refused {k : Nat} {selected : Except String Backend} {e : CallError}
    (made : .start k selected ∈ acts)
    (refused : transport.pickBackend selected (calls k).path = .error e) :
    t.notesOf k = [.ended k (.error e)] :=
  (calls_run ran k).of_refused ((mem_actsOf rfl).mpr made)
    (EndpointTransport.send_eq_error.mpr refused)

theorem sentOnce_of_picked {k : Nat} {selected : Except String Backend} {pick : Pick}
    (made : .start k selected ∈ acts)
    (picked : transport.pickBackend selected (calls k).path = .ok pick) :
    SentOnce acts t k (calls k) pick.client fun result =>
      (transport.report display pick result).toList.map fun r => .reported k r.1 r.2 := by
  obtain ⟨waiting, answered⟩ := (calls_run ran k).of_picked ((mem_actsOf rfl).mpr made)
    (EndpointTransport.send_eq_ok.mpr ⟨picked, rfl⟩)
  exact ⟨fun waits => waiting fun result member => waits result ((mem_actsOf rfl).mp member),
    fun result member => answered result ((mem_actsOf rfl).mpr member)⟩

end

end Dispatch

/-! ## Every call is accounted for -/

namespace GrpcEgressBuilderImpl

/-- What the pool may select: nothing, or a backend whose URL is a configured one. -/
def Selectable (b : GrpcEgressBuilderImpl) (selected : Except String Backend) : Prop :=
  ∀ settings, b.loadbalancer = some settings → ∀ backend, selected = .ok backend →
    backend.url ∈ settings.backends.map BackendTarget.url

/-- A built endpoint refuses a call only when its pool selects nothing. -/
theorem pickBackend_error {b : GrpcEgressBuilderImpl} {outside : Outside} {client : BuiltClient}
    (built : b.build outside = .returned client) {selected : Except String Backend}
    (selectable : b.Selectable selected) {path : String} {e : CallError}
    (refused : client.endpoint.pickBackend selected path = .error e) :
    ∃ reason, selected = .error reason ∧ e = .transport path .unavailable reason := by
  obtain ⟨tls, -, -, clients⟩ := build_clients built
  cases balancing : b.loadbalancer with
  | none =>
    rw [pickBackend_single built clients balancing] at refused
    cases refused
  | some settings =>
    cases selected with
    | error reason =>
      rw [pickBackend_unselected built balancing] at refused
      exact ⟨reason, rfl, (Except.error.inj refused).symm⟩
    | ok backend =>
      have target := selectable settings balancing backend rfl
      rw [pickBackend_selected built clients balancing target] at refused
      cases refused

end GrpcEgressBuilderImpl

open Dispatch in
/-- Any calls of a built endpoint, in any order and overlapping at will, when its pool only
selects backends with a configured URL. A balanced call is sent once, to a client of the
backend that was selected for it, is reported once, for that backend, and returns what the
client answers; without a backend it is `Unavailable` and nothing else. A call of a single
endpoint is sent to its client, and not reported. The only refusal is of a call for which
nothing is selected, so neither `Internal` one is ever made. -/
theorem calls_accounted {μ σ τ ρ : Type} {b : GrpcEgressBuilderImpl} {outside : Outside}
    {client : BuiltClient} (built : b.build outside = .returned client)
    (display : CallError → String) {calls : Nat → EgressCall μ σ τ} {acts : List (DispatchAct ρ)}
    {t : Dispatch μ σ τ ρ} (ran : run (step client.endpoint display calls) start acts = some t)
    (selectable : ∀ k selected, .start k selected ∈ acts → b.Selectable selected) :
    ∃ tls, b.resolveTls outside = .ok tls ∧ client.endpoint.clients = b.targetClients tls ∧
    (b.loadbalancer.isSome → ∀ k,
      (∀ backend, .start k (.ok backend) ∈ acts →
        (backend.url, b.targetOptions tls backend.url) ∈ client.endpoint.clients ∧
        SentOnce acts t k (calls k) (b.targetOptions tls backend.url) fun result =>
          [.reported k backend.id (EndpointTransport.judgeOutcome display result)]) ∧
      ∀ reason, .start k (.error reason) ∈ acts →
        t.notesOf k = [.ended k (.error (.transport (calls k).path .unavailable reason))]) ∧
    (b.loadbalancer = none → ∀ k selected, .start k selected ∈ acts →
      SentOnce acts t k (calls k) (b.targetOptions tls b.endpoint) fun _ => []) ∧
    (∀ k, (∀ selected, .start k selected ∉ acts) → t.notesOf k = []) ∧
    (∀ result : Except CallError ρ,
      (∃ reason, EndpointTransport.judgeOutcome display result = .failure reason) ↔
        ∃ e, result = .error e ∧ e.BackendAtFault) ∧
    ∀ selected path e, b.Selectable selected →
      client.endpoint.pickBackend selected path = .error e →
        ∃ reason, selected = .error reason ∧ e = .transport path .unavailable reason := by
  obtain ⟨tls, resolved, -, clients⟩ := GrpcEgressBuilderImpl.build_clients built
  refine ⟨tls, resolved, clients, ?_, ?_, fun k => notesOf_unmade ran,
    fun _ => EndpointTransport.judgeOutcome_failure_iff, ?_⟩
  · intro balanced k
    obtain ⟨settings, balancing⟩ := Option.isSome_iff_exists.mp balanced
    constructor
    · intro backend made
      have target := selectable k _ made settings balancing backend rfl
      have picked := GrpcEgressBuilderImpl.pickBackend_selected built clients balancing target
        (calls k).path
      have pooled := (GrpcEgressBuilderImpl.build_pool built).trans balanced
      have sent := sentOnce_of_picked ran made picked
      simp only [EndpointTransport.report_of_pool pooled] at sent
      have member := GrpcEgressBuilderImpl.target_mem balancing target
      rw [clients]
      exact ⟨List.mem_map_of_mem member, sent⟩
    · intro reason made
      exact notesOf_refused ran made
        (GrpcEgressBuilderImpl.pickBackend_unselected built balancing _ reason)
  · intro single k selected made
    have picked := GrpcEgressBuilderImpl.pickBackend_single built clients single selected
      (calls k).path
    have sent := sentOnce_of_picked ran made picked
    simp only [EndpointTransport.report_no_backend] at sent
    exact sent
  · intro selected path e allowed refused
    exact GrpcEgressBuilderImpl.pickBackend_error built allowed refused

namespace DispatchExample

/-- Two backends with one URL, and a third. -/
def settings : LoadbalancerSettings :=
  ⟨.roundRobin, [⟨"https://a", 1, by decide, u32_one_ne_zero⟩,
    ⟨"https://a", 1, by decide, u32_one_ne_zero⟩,
    ⟨"https://b", 1, by decide, u32_one_ne_zero⟩], by decide⟩

def balanced : GrpcEgressBuilderImpl := configured "" [.single (.loadbalancer settings)]

/-- What is built from them. -/
def client : BuiltClient :=
  ⟨⟨balanced.targetClients ⟨none, [], none⟩,
    some ⟨.roundRobin, [("https://a", 1), ("https://a", 1), ("https://b", 1)]⟩⟩, []⟩

def calls : Nat → EgressCall Unit Unit Unit
  | 0 => .callRaw ⟨"/a/A", [1], ⟨none, .empty⟩⟩
  | _ => .callBidiStream "/a/B" ⟨(), ⟨none, .empty⟩⟩

/-- The second call is answered first, and no backend is selected for the third. -/
def acts : List (DispatchAct Unit) :=
  [.start 0 (.ok ⟨"1", "https://a"⟩), .start 1 (.ok ⟨"2", "https://b"⟩),
    .start 2 (.error "no backend is up"),
    .answer 1 (.error (.status "/a/B" .deadlineExceeded "late" .empty)), .answer 0 (.ok ())]

end DispatchExample

open PanicExample DispatchExample Dispatch in
theorem calls_accounted_overlapping : ∃ t, balanced.build willing = .returned client ∧
    run (step client.endpoint (fun _ => "late") calls) start acts = some t ∧
    ∃ one two, one.endpoint = "https://a" ∧ two.endpoint = "https://b" ∧
      t.notesOf 0 = [.sent 0 one (calls 0), .reported 0 "1" .success, .ended 0 (.ok ())] ∧
      t.notesOf 1 = [.sent 1 two (calls 1), .reported 1 "2" (.failure "late"),
        .ended 1 (.error (.status "/a/B" .deadlineExceeded "late" .empty))] ∧
      t.notesOf 2 = [.ended 2 (.error (.transport "/a/B" .unavailable "no backend is up"))] := by
  have built : balanced.build willing = .returned client := by rfl
  have selectable : ∀ k selected, .start k selected ∈ acts → balanced.Selectable selected := by
    intro k selected made settings balancing backend chosen
    cases balancing
    subst chosen
    simp only [acts, List.mem_cons, DispatchAct.start.injEq, Except.ok.injEq, reduceCtorEq,
      and_false, List.not_mem_nil, or_false] at made
    rcases made with ⟨-, rfl⟩ | ⟨-, rfl⟩
    · decide
    · decide
  obtain ⟨t, ran⟩ : ∃ t, run (step client.endpoint (fun _ => "late") calls) start acts = some t :=
    ⟨_, rfl⟩
  obtain ⟨tls, -, -, accounted, -⟩ := calls_accounted built (fun _ => "late") ran selectable
  refine ⟨t, built, ran, balanced.targetOptions tls "https://a",
    balanced.targetOptions tls "https://b", rfl, rfl, ?_, ?_, ?_⟩
  · have sent := ((accounted rfl 0).1 ⟨"1", "https://a"⟩ (by simp [acts])).2
    exact sent.answered (.ok ()) (by simp [acts])
  · have sent := ((accounted rfl 1).1 ⟨"2", "https://b"⟩ (by simp [acts])).2
    exact sent.answered (.error (.status "/a/B" .deadlineExceeded "late" .empty)) (by simp [acts])
  · exact (accounted rfl 2).2 _ (by simp [acts])

end GrpcEgress
