import GrpcEgress.Retry.Budget

/-!
# The two retried calls

`GrpcRetryClient::call` and `GrpcRetryClient::call_raw`. The raw call runs the
loop over the bytes it was given. The typed call encodes its message once, sends
the message itself first and a decoded copy after that; with one attempt allowed
it forwards the call as it is and neither encodes nor reads a clock.

The wrapped client is a parameter: what it answers to its `i`-th invocation of
this call. `SameInner` says that a typed and a raw client answer alike when the
bytes are the message's.

1. `call_alike`: with two or more attempts allowed the typed call and the raw
   call are the same run, seen through the encoding;
2. `call_one_attempt`: with one, the typed call is the forwarded call;
3. `callRaw_one_attempt`: with one, the raw call makes that attempt with what is
   left of its timeout.
-/

namespace GrpcEgress

/-- `Payload`: how a message is written and read. -/
structure Payload (μ : Type) where
  encode : μ → Except String (List UInt8)
  decode : List UInt8 → Except String μ

/-- The policy, classifier and scheduler of a `GrpcRetryClient`. -/
structure GrpcRetryClient (υ : Type) where
  config : GrpcRetryConfig
  classifier : RetryClassifier
  scheduler : BackoffScheduler υ

/-- What one call reads from outside: the clock, twice in each iteration, and the
jitter. -/
structure Surroundings (υ : Type) where
  elapsedBefore : Nat → Duration
  elapsedAfter : Nat → Duration
  jitter : Nat → υ

/-- The calls that the attempts of a run handed to the wrapped client. -/
def RetryOutcome.sent {ε ρ : Type} (r : RetryOutcome ε ρ) : List ε :=
  r.events.flatMap fun
    | .attempt _ _ sent => sent
    | .pause _ _ => []

namespace GrpcRetryClient

variable {υ μ ρ ρ' : Type}

/-- The loop of a client: `run_with_retry` on the call to `path`. -/
def retryInput {ε ρ : Type} (client : GrpcRetryClient υ) (env : Surroundings υ) (path : String)
    (totalBudget : Option Duration) (attempt : Nat → Option Duration → Attempt ε ρ) :
    RetryInput υ ε ρ where
  config := client.config
  classifier := client.classifier
  scheduler := client.scheduler
  path := path
  totalBudget := totalBudget
  elapsedBefore := env.elapsedBefore
  elapsedAfter := env.elapsedAfter
  jitter := env.jitter
  attempt := attempt

/-- The attempt closure of `call`. `first.take()` gives the message away in the
first iteration; later ones decode a copy. -/
def typedAttempt (payload : Payload μ) (inner : Nat → CallRequest μ → Except CallError ρ)
    (request : CallRequest μ) (encoded : List UInt8) (i : Nat) (timeout : Option Duration) :
    Attempt (CallRequest μ) ρ :=
  let message := if i = 0 then .ok request.message else payload.decode encoded
  match message with
  | .ok message =>
    let sent := ⟨message, ⟨timeout, request.options.metadata⟩⟩
    ⟨[sent], inner i sent⟩
  | .error reason => ⟨[], .error (.decode reason)⟩

/-- `GrpcRetryClient::call` of the method at `path`. -/
def call (client : GrpcRetryClient υ) (env : Surroundings υ) (payload : Payload μ) (path : String)
    (inner : Nat → CallRequest μ → Except CallError ρ) (request : CallRequest μ) :
    RetryOutcome (CallRequest μ) ρ :=
  if client.config.maxAttempts.toNat ≤ 1 then
    ⟨[.attempt 0 request.options.timeout [request]], some (inner 0 request)⟩
  else
    match payload.encode request.message with
    | .error reason => ⟨[], some (.error (.encode reason))⟩
    | .ok encoded =>
      (client.retryInput env path request.options.timeout
        (typedAttempt payload inner request encoded)).runWithRetry

/-- The attempt closure of `call_raw`. -/
def rawAttempt (inner : Nat → CallRawRequest → Except CallError ρ) (request : CallRawRequest)
    (i : Nat) (timeout : Option Duration) : Attempt CallRawRequest ρ :=
  let sent := ⟨request.path, request.message, ⟨timeout, request.options.metadata⟩⟩
  ⟨[sent], inner i sent⟩

/-- What the loop of `call_raw` reads. -/
def rawInput (client : GrpcRetryClient υ) (env : Surroundings υ)
    (inner : Nat → CallRawRequest → Except CallError ρ) (request : CallRawRequest) :
    RetryInput υ CallRawRequest ρ :=
  client.retryInput env request.path request.options.timeout (rawAttempt inner request)

/-- `GrpcRetryClient::call_raw`. -/
def callRaw (client : GrpcRetryClient υ) (env : Surroundings υ)
    (inner : Nat → CallRawRequest → Except CallError ρ) (request : CallRawRequest) :
    RetryOutcome CallRawRequest ρ :=
  (client.rawInput env inner request).runWithRetry

end GrpcRetryClient

/-! ## Runs that differ in what they send and how a response reads -/

namespace RetryEvent

variable {ε ε' : Type}

/-- An event with every call that it sent translated. -/
def mapSent (f : ε → ε') : RetryEvent ε → RetryEvent ε'
  | .attempt i timeout sent => .attempt i timeout (sent.map f)
  | .pause i sleepFor => .pause i sleepFor

end RetryEvent

/-- A run with its calls and its response translated. -/
def RetryOutcome.translate {ε ε' ρ ρ' : Type} (f : ε → ε') (g : ρ → ρ')
    (r : RetryOutcome ε ρ) : RetryOutcome ε' ρ' :=
  ⟨r.events.map (RetryEvent.mapSent f), r.result.map fun result => result.map g⟩

@[simp]
theorem RetryOutcome.translate_attempts {ε ε' ρ ρ' : Type} (f : ε → ε') (g : ρ → ρ')
    (r : RetryOutcome ε ρ) : (r.translate f g).attempts = r.attempts := by
  simp only [RetryOutcome.attempts, RetryOutcome.translate, List.filterMap_map]
  congr 1
  funext e
  cases e <;> rfl

@[simp]
theorem RetryOutcome.translate_pauses {ε ε' ρ ρ' : Type} (f : ε → ε') (g : ρ → ρ')
    (r : RetryOutcome ε ρ) : (r.translate f g).pauses = r.pauses := by
  simp only [RetryOutcome.pauses, RetryOutcome.translate, List.filterMap_map]
  congr 1
  funext e
  cases e <;> rfl

@[simp]
theorem RetryOutcome.translate_sent {ε ε' ρ ρ' : Type} (f : ε → ε') (g : ρ → ρ')
    (r : RetryOutcome ε ρ) : (r.translate f g).sent = r.sent.map f := by
  simp only [RetryOutcome.sent, RetryOutcome.translate, List.flatMap_map, List.map_flatMap]
  congr 1
  funext e
  cases e <;> rfl

namespace RetryInput

variable {υ ε ε' ρ ρ' : Type}

theorem forget_map (g : ρ → ρ') (result : Except CallError ρ) :
    forget (result.map g) = forget result := by
  cases result <;> rfl

theorem errOf_map (g : ρ → ρ') (result : Except CallError ρ) :
    errOf (result.map g) = errOf result := by
  cases result <;> rfl

/-- One pass, with its events and its exit translated. -/
def translatePass (f : ε → ε') (g : ρ → ρ') :
    RangeLoop.Pass (RetryEvent ε) RetryState (LoopExit ρ) →
      RangeLoop.Pass (RetryEvent ε') RetryState (LoopExit ρ')
  | .again events st => .again (events.map (RetryEvent.mapSent f)) st
  | .exit events (.returned result) =>
    .exit (events.map (RetryEvent.mapSent f)) (.returned (result.map g))
  | .exit events (.broke lastError) => .exit (events.map (RetryEvent.mapSent f)) (.broke lastError)
  | .exit events .overflowed => .exit (events.map (RetryEvent.mapSent f)) .overflowed

/-- Two loops that differ only in what their attempts send and in how the response
reads: each attempt of the second is the translation of the first's. -/
structure SameLoop (f : ε → ε') (g : ρ → ρ') (c : RetryInput υ ε ρ) (d : RetryInput υ ε' ρ') :
    Prop where
  config : d.config = c.config
  classifier : d.classifier = c.classifier
  scheduler : d.scheduler = c.scheduler
  path : d.path = c.path
  totalBudget : d.totalBudget = c.totalBudget
  elapsedBefore : d.elapsedBefore = c.elapsedBefore
  elapsedAfter : d.elapsedAfter = c.elapsedAfter
  jitter : d.jitter = c.jitter
  sent : ∀ i timeout, (d.attempt i timeout).sent = (c.attempt i timeout).sent.map f
  result : ∀ i timeout, (d.attempt i timeout).result = (c.attempt i timeout).result.map g

/-- Such loops take the same step from every state. -/
theorem pass_translate {f : ε → ε'} {g : ρ → ρ'} {c : RetryInput υ ε ρ} {d : RetryInput υ ε' ρ'}
    (h : SameLoop f g c d) (i : Nat) (st : RetryState) :
    d.pass i st = translatePass f g (c.pass i st) := by
  have hrem : d.remaining i = c.remaining i := by
    simp only [remaining, h.totalBudget, h.elapsedBefore]
  have hfits : ∀ sleepFor, d.budgetAllowsSleep sleepFor i = c.budgetAllowsSleep sleepFor i := by
    intro sleepFor
    simp only [budgetAllowsSleep, h.totalBudget, h.elapsedAfter]
  -- Time left, decision and pause agree, so both loops take the same branch.
  simp only [pass, hrem, hfits, h.config, h.classifier, h.scheduler, h.path, h.jitter, h.sent,
    h.result, forget_map, errOf_map]
  cases c.remaining i with
  | none => rfl
  | some timeout =>
    dsimp only
    cases c.classifier.classify (forget (c.attempt i timeout).result) with
    | success => rfl
    | terminal => rfl
    | retry =>
      dsimp only
      cases succU32 st.standardAttempt with
      | none => rfl
      | some next =>
        dsimp only
        split
        · rfl
        · split <;> rfl
    | retryRateLimit =>
      dsimp only
      cases succU32 st.rateLimAttempt with
      | none => rfl
      | some next =>
        dsimp only
        split
        · rfl
        · split <;> rfl

/-- The end of a loop, with another response. -/
def translateEnd (g : ρ → ρ') : RetryState ⊕ LoopExit ρ → RetryState ⊕ LoopExit ρ'
  | .inl st => .inl st
  | .inr (.returned result) => .inr (.returned (result.map g))
  | .inr (.broke lastError) => .inr (.broke lastError)
  | .inr .overflowed => .inr .overflowed

/-- Such loops run alike. -/
theorem runWithRetry_translate {f : ε → ε'} {g : ρ → ρ'} {c : RetryInput υ ε ρ}
    {d : RetryInput υ ε' ρ'} (h : SameLoop f g c d) :
    d.runWithRetry = c.runWithRetry.translate f g := by
  have hloop : ∀ fuel i st, RangeLoop.run d.pass fuel i st =
      ((RangeLoop.run c.pass fuel i st).1.map (RetryEvent.mapSent f),
        translateEnd g (RangeLoop.run c.pass fuel i st).2) := by
    intro fuel
    induction fuel with
    | zero => intro i st; rfl
    | succ fuel ih =>
      intro i st
      simp only [RangeLoop.run, pass_translate h]
      cases c.pass i st with
      | again events st' => simp only [translatePass, ih, List.map_append]
      | exit events b => cases b <;> rfl
  simp only [runWithRetry, RetryOutcome.translate, hloop, h.config, giveUp, h.path]
  cases (RangeLoop.run c.pass c.config.maxAttempts.toNat 0 ⟨0, 0, none⟩).2 with
  | inl st => rfl
  | inr b => cases b <;> rfl

end RetryInput

namespace GrpcRetryClient

variable {υ μ ρ ρ' : Type}

/-! ## The typed call and the raw call -/

/-- The wrapped client answers the raw call as it answers the typed one, the
response rendered, at every invocation and with every option. -/
def SameInner (path : String) (message : μ) (encoded : List UInt8) (render : ρ → ρ')
    (inner : Nat → CallRequest μ → Except CallError ρ)
    (innerRaw : Nat → CallRawRequest → Except CallError ρ') : Prop :=
  ∀ i options, innerRaw i ⟨path, encoded, options⟩ = (inner i ⟨message, options⟩).map render

/-- A typed run and a raw run are alike: the same attempts with the same timeouts
and metadata, the same pauses and the same outcome. -/
def Alike (render : ρ → ρ') (typed : RetryOutcome (CallRequest μ) ρ)
    (raw : RetryOutcome CallRawRequest ρ') : Prop :=
  raw.attempts = typed.attempts ∧
  raw.sent.map CallRawRequest.options = typed.sent.map CallRequest.options ∧
  raw.pauses = typed.pauses ∧
  raw.result = typed.result.map fun result => result.map render

/-- When the payload decodes what it encoded, every typed attempt sends the
caller's message. -/
theorem typedAttempt_of_decode {payload : Payload μ}
    {inner : Nat → CallRequest μ → Except CallError ρ} {request : CallRequest μ}
    {encoded : List UInt8} (hdec : payload.decode encoded = .ok request.message) (i : Nat)
    (timeout : Option Duration) :
    typedAttempt payload inner request encoded i timeout =
      ⟨[⟨request.message, ⟨timeout, request.options.metadata⟩⟩],
        inner i ⟨request.message, ⟨timeout, request.options.metadata⟩⟩⟩ := by
  by_cases hi : i = 0
  · simp only [typedAttempt, hi, if_true]
  · simp only [typedAttempt, hi, if_false, hdec]

/-- The raw call a typed call becomes. -/
def asRaw (path : String) (encoded : List UInt8) (request : CallRequest μ) : CallRawRequest :=
  ⟨path, encoded, request.options⟩

/-- With two or more attempts allowed the raw call is the typed call, translated. -/
theorem callRaw_translate {client : GrpcRetryClient υ} (env : Surroundings υ)
    {payload : Payload μ} {path : String} {render : ρ → ρ'}
    {inner : Nat → CallRequest μ → Except CallError ρ}
    {innerRaw : Nat → CallRawRequest → Except CallError ρ'} {request : CallRequest μ}
    {encoded : List UInt8} (hmax : 2 ≤ client.config.maxAttempts.toNat)
    (henc : payload.encode request.message = .ok encoded)
    (hdec : payload.decode encoded = .ok request.message)
    (hsame : SameInner path request.message encoded render inner innerRaw) :
    client.callRaw env innerRaw (asRaw path encoded request) =
      (client.call env payload path inner request).translate (asRaw path encoded) render := by
  have hgt : ¬ client.config.maxAttempts.toNat ≤ 1 := by omega
  simp only [call, hgt, if_false, henc, callRaw, rawInput]
  apply RetryInput.runWithRetry_translate
  constructor
  case sent =>
    intro i timeout
    simp only [retryInput, rawAttempt, typedAttempt_of_decode hdec, asRaw, List.map_cons,
      List.map_nil]
  case result =>
    intro i timeout
    simp only [retryInput, rawAttempt, typedAttempt_of_decode hdec, asRaw]
    exact hsame i _
  all_goals rfl

/-- With two or more attempts allowed the two calls are alike. -/
theorem call_alike {client : GrpcRetryClient υ} (env : Surroundings υ)
    {payload : Payload μ} {path : String} {render : ρ → ρ'}
    {inner : Nat → CallRequest μ → Except CallError ρ}
    {innerRaw : Nat → CallRawRequest → Except CallError ρ'} {request : CallRequest μ}
    {encoded : List UInt8} (hmax : 2 ≤ client.config.maxAttempts.toNat)
    (henc : payload.encode request.message = .ok encoded)
    (hdec : payload.decode encoded = .ok request.message)
    (hsame : SameInner path request.message encoded render inner innerRaw) :
    Alike render (client.call env payload path inner request)
      (client.callRaw env innerRaw (asRaw path encoded request)) := by
  rw [callRaw_translate env hmax henc hdec hsame]
  refine ⟨RetryOutcome.translate_attempts _ _ _, ?_, RetryOutcome.translate_pauses _ _ _, rfl⟩
  rw [RetryOutcome.translate_sent, List.map_map]
  rfl

/-- With one attempt allowed the typed call is the wrapped client's, forwarded. -/
theorem call_one_attempt {client : GrpcRetryClient υ} (env : Surroundings υ) (payload : Payload μ)
    (path : String) (inner : Nat → CallRequest μ → Except CallError ρ) (request : CallRequest μ)
    (hmax : client.config.maxAttempts.toNat = 1) :
    client.call env payload path inner request =
      ⟨[.attempt 0 request.options.timeout [request]], some (inner 0 request)⟩ := by
  rw [call, if_pos (Nat.le_of_eq hmax)]

/-- With one attempt allowed the raw call makes it, with what is left of its
timeout at the first clock reading, and answers with its result. -/
theorem callRaw_one_attempt {client : GrpcRetryClient υ} {env : Surroundings υ}
    {innerRaw : Nat → CallRawRequest → Except CallError ρ} {request : CallRawRequest}
    (hmax : client.config.maxAttempts.toNat = 1) {timeout : Option Duration}
    (hleft : (client.rawInput env innerRaw request).remaining 0 = some timeout) :
    let sent := { request with options := ⟨timeout, request.options.metadata⟩ }
    (client.callRaw env innerRaw request).sent = [sent] ∧
      (client.classifier.RetriesOnlyFailures →
        (client.callRaw env innerRaw request).result = some (innerRaw 0 sent)) := by
  intro sent
  let c := client.rawInput env innerRaw request
  have hdue : c.due 0 := by rw [RetryInput.due, hleft]; rfl
  have htimeout : c.timeoutAt 0 = timeout := by rw [RetryInput.timeoutAt, hleft]; rfl
  have hmax' : c.config.maxAttempts.toNat = 1 := hmax
  have hend : c.Ending (client.callRaw env innerRaw request) := c.runWithRetry_ending
  -- However the loop ends, its range has one index and that one is due.
  have hlen : (client.callRaw env innerRaw request).attempts.length = 1 ∧
      (client.callRaw env innerRaw request).sent = (c.attempt 0 (c.timeoutAt 0)).sent := by
    generalize client.callRaw env innerRaw request = r at hend
    cases hend with
    | exhausted _ =>
      rw [hmax', RetryInput.attempts_full]
      exact ⟨rfl, List.append_nil _⟩
    | @spent n hn _ hd =>
      obtain rfl : n = 0 := by omega
      exact absurd hdue hd
    | @stopped n hn _ _ _ =>
      obtain rfl : n = 0 := by omega
      rw [RetryInput.attempts_stopped]
      exact ⟨rfl, List.append_nil _⟩
  refine ⟨?_, fun hc => ?_⟩
  · rw [hlen.2, htimeout]
    rfl
  · have hres := hend.result (c := c) hc
    rw [hlen.1, if_neg Nat.one_ne_zero, RetryInput.answer, htimeout] at hres
    exact hres

/-- A raw call whose timeout is spent at the first clock reading sends nothing. -/
theorem callRaw_spent {client : GrpcRetryClient υ} {env : Surroundings υ}
    {innerRaw : Nat → CallRawRequest → Except CallError ρ} {request : CallRawRequest}
    (hleft : (client.rawInput env innerRaw request).remaining 0 = none) :
    client.callRaw env innerRaw request =
      ⟨[], some (.error (deadlineExhausted request.path))⟩ := by
  let c := client.rawInput env innerRaw request
  have hdue : ¬ c.due 0 := by rw [RetryInput.due, hleft]; exact Bool.false_ne_true
  have hmax := c.config.one_le_maxAttempts
  have hend : c.Ending (client.callRaw env innerRaw request) := c.runWithRetry_ending
  generalize client.callRaw env innerRaw request = r at hend
  cases hend with
  | exhausted hstay => exact absurd (hstay 0 (by omega)).1 hdue
  | @spent n _ hstay _ =>
    cases n with
    | zero => rfl
    | succ n => exact absurd (hstay 0 (Nat.succ_pos n)).1 hdue
  | @stopped n _ hstay hd _ =>
    cases n with
    | zero => exact absurd hd hdue
    | succ n => exact absurd (hstay 0 (Nat.succ_pos n)).1 hdue

/-- What is left of a limit at a clock reading: all of no limit, or else the rest of it. -/
def Leaves (limit : Option Duration) (elapsed : Duration) : Option Duration → Prop
  | none => limit = none
  | some left => ∃ budget, limit = some budget ∧ 0 < left.nanos ∧
      left.nanos + elapsed.nanos = budget.nanos

/-- A budget is spent at the top of an iteration, or the rest of it is left. -/
theorem remaining_cases {ε : Type} (c : RetryInput υ ε ρ) (i : Nat) :
    (SpentBy c.totalBudget (c.elapsedBefore i).nanos ∧ c.remaining i = none) ∨
    ∃ timeout, Leaves c.totalBudget (c.elapsedBefore i) timeout ∧
      c.remaining i = some timeout := by
  by_cases hdue : c.due i
  · refine .inr ⟨c.timeoutAt i, ?_, RetryInput.remaining_of_due hdue⟩
    cases hb : c.totalBudget with
    | none =>
      rw [RetryInput.timeoutAt_of_no_budget hb]
      rfl
    | some budget =>
      obtain ⟨hlt, left, htimeout, hleft⟩ := RetryInput.attempt_in_budget hb hdue
      rw [htimeout]
      exact ⟨budget, rfl, by omega, by omega⟩
  · exact .inl ⟨RetryInput.not_due_iff.mp hdue, RetryInput.remaining_of_not_due hdue⟩

/-- The typed and the raw call of one message. With two or more attempts allowed
they are alike. With one, the typed call is forwarded with the caller's own
options, and the raw call makes that attempt with what is left of its timeout at
the first clock reading, or fails with `DeadlineExceeded` when nothing is. -/
theorem typed_and_raw_calls (client : GrpcRetryClient υ) (env : Surroundings υ)
    (payload : Payload μ) (path : String) (render : ρ → ρ')
    (inner : Nat → CallRequest μ → Except CallError ρ)
    (innerRaw : Nat → CallRawRequest → Except CallError ρ') (request : CallRequest μ)
    (encoded : List UInt8) (henc : payload.encode request.message = .ok encoded)
    (hdec : payload.decode encoded = .ok request.message)
    (hsame : SameInner path request.message encoded render inner innerRaw) :
    let typed := client.call env payload path inner request
    let raw := client.callRaw env innerRaw (asRaw path encoded request)
    (2 ≤ client.config.maxAttempts.toNat → Alike render typed raw) ∧
    (client.config.maxAttempts.toNat = 1 →
      typed = ⟨[.attempt 0 request.options.timeout [request]], some (inner 0 request)⟩ ∧
      (SpentBy request.options.timeout (env.elapsedBefore 0).nanos ∧
        raw = ⟨[], some (.error (.transport path .deadlineExceeded
          "deadline exhausted before retry could be issued"))⟩ ∨
      ∃ timeout, Leaves request.options.timeout (env.elapsedBefore 0) timeout ∧
        raw.sent = [⟨path, encoded, ⟨timeout, request.options.metadata⟩⟩] ∧
        (client.classifier.RetriesOnlyFailures →
          raw.result =
            some ((inner 0 ⟨request.message, ⟨timeout, request.options.metadata⟩⟩).map
              render)))) := by
  intro typed raw
  refine ⟨fun hmax => call_alike env hmax henc hdec hsame, fun hmax => ⟨?_, ?_⟩⟩
  · exact call_one_attempt env payload path inner request hmax
  · rcases remaining_cases (client.rawInput env innerRaw (asRaw path encoded request)) 0 with
      ⟨hspent, hleft⟩ | ⟨timeout, hleaves, hleft⟩
    · exact .inl ⟨hspent, callRaw_spent hleft⟩
    · obtain ⟨hsent, hresult⟩ := callRaw_one_attempt hmax hleft
      refine .inr ⟨timeout, hleaves, hsent, fun hc => ?_⟩
      rw [← hsame 0 _]
      exact hresult hc

end GrpcRetryClient

/-! ## One attempt and no time left -/

namespace OneAttempt

/-- A client that allows `n` attempts, with the standard classifier and pauses of
no length. -/
def client (n : UInt32) (pos : n ≠ 0) : GrpcRetryClient Unit where
  config := { GrpcRetryConfig.default with maxAttempts := n, maxAttempts_pos := pos }
  classifier := stdRetryClassifier
  scheduler := ⟨fun _ _ _ => .zero, fun _ _ _ _ => .zero⟩

/-- A clock that stands still. -/
def stopped : Surroundings Unit := ⟨fun _ => .zero, fun _ => .zero, fun _ => ()⟩

/-- The payload of a message with nothing in it. -/
def empty : Payload Unit := ⟨fun _ => .ok [], fun _ => .ok ()⟩

/-- A call that has no time at all. -/
def request : CallRequest Unit := ⟨(), ⟨some .zero, .empty⟩⟩

/-- A peer that answers everything, typed and raw. -/
def inner : Nat → CallRequest Unit → Except CallError Unit := fun _ _ => .ok ()

@[inherit_doc inner]
def innerRaw : Nat → CallRawRequest → Except CallError (List UInt8) := fun _ _ => .ok []

end OneAttempt

/-! ## Two failures and a response -/

namespace ThirdAnswered

/-- A client that allows `n` attempts, with pauses of a second. -/
def client (n : UInt32) (pos : n ≠ 0) : GrpcRetryClient Unit :=
  { OneAttempt.client n pos with
    scheduler := ⟨fun _ _ _ => .fromSecs 1, fun _ _ _ _ => .fromSecs 1⟩ }

/-- A clock that starts at one second; each attempt and each pause takes one. -/
def ticking : Surroundings Unit where
  elapsedBefore i := .fromSecs (2 * UInt64.ofNat i + 1)
  elapsedAfter i := .fromSecs (2 * UInt64.ofNat i + 2)
  jitter _ := ()

/-- A message of one byte, written as it is. -/
def payload : Payload UInt8 where
  encode message := .ok [message]
  decode
    | [message] => .ok message
    | _ => .error "one byte"

/-- A call with ten seconds and a header. -/
def request : CallRequest UInt8 := ⟨7, ⟨some (.fromSecs 10), ⟨[("k", "v")], []⟩⟩⟩

/-- The failure of a peer that is down. -/
def down : CallError := .status "/test.Peer/Echo" .unavailable "down" .empty

/-- A peer that is down for two invocations and then echoes, typed and raw. -/
def inner (i : Nat) (sent : CallRequest UInt8) : Except CallError UInt8 :=
  if i < 2 then .error down else .ok sent.message

@[inherit_doc inner]
def innerRaw (i : Nat) (sent : CallRawRequest) : Except CallError (List UInt8) :=
  if i < 2 then .error down else .ok sent.message

theorem inner_same : GrpcRetryClient.SameInner "/test.Peer/Echo" request.message [7]
    (fun message => [message]) inner innerRaw := by
  intro i options
  unfold inner innerRaw
  split
  · rfl
  · rfl

end ThirdAnswered

open GrpcRetryClient ThirdAnswered in
/-- `typed_and_raw_calls` where the third attempt is answered, and for one attempt. -/
theorem typed_and_raw_calls_third :
    let typed := (client 3 (by decide)).call ticking payload "/test.Peer/Echo" inner request
    let raw := (client 3 (by decide)).callRaw ticking innerRaw
      (asRaw "/test.Peer/Echo" [7] request)
    (typed.attempts = [(0, some (.fromSecs 9)), (1, some (.fromSecs 7)), (2, some (.fromSecs 5))] ∧
      typed.pauses = [(0, .fromSecs 1), (1, .fromSecs 1)] ∧
      typed.result = some (.ok 7) ∧ Alike (fun message => [message]) typed raw) ∧
    ((client 1 (by decide)).callRaw ticking innerRaw (asRaw "/test.Peer/Echo" [7] request)).sent =
      [⟨"/test.Peer/Echo", [7], ⟨some (.fromSecs 9), request.options.metadata⟩⟩] := by
  have calls (n : UInt32) (pos : n ≠ 0) := typed_and_raw_calls (client n pos) ticking payload
    "/test.Peer/Echo" (fun message => [message]) inner innerRaw request [7] rfl rfl inner_same
  refine ⟨⟨by decide, by decide, rfl, (calls 3 (by decide)).1 (by decide)⟩, ?_⟩
  rcases ((calls 1 (by decide)).2 (by decide)).2 with
    ⟨⟨_, ten, spent⟩, -⟩ | ⟨timeout, left, sent, -⟩
  · cases ten
    exact absurd spent (by decide)
  · cases timeout with
    | none => cases left
    | some timeout =>
      -- A second has passed of ten.
      obtain ⟨_, ten, -, rest⟩ := left
      cases ten
      have nine : timeout = .fromSecs 9 := Duration.ext (Nat.add_right_cancel rest)
      rw [sent, nine]

open GrpcRetryClient OneAttempt in
/-- With one attempt allowed and a timeout of zero the typed call is answered,
while the raw call fails and sends nothing. -/
theorem one_attempt_zero_timeout :
    empty.encode request.message = .ok [] ∧ empty.decode [] = .ok request.message ∧
    SameInner "/test.Peer/Echo" request.message [] (fun _ => []) inner innerRaw ∧
    ¬ Alike (fun _ => [])
      ((client 1 (by decide)).call stopped empty "/test.Peer/Echo" inner request)
      ((client 1 (by decide)).callRaw stopped innerRaw (asRaw "/test.Peer/Echo" [] request)) := by
  refine ⟨rfl, rfl, fun _ _ => rfl, fun halike => ?_⟩
  have hlen := congrArg List.length halike.1
  exact absurd hlen (by decide)

end GrpcEgress
