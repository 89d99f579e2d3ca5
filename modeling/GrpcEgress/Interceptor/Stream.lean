import GrpcEgress.Interceptor.Reply

/-!
# Response streams

The server-streaming and bidirectional calls of `InterceptedTransport`, typed and
raw, and the `PatternResponseStream` they return. The four calls repeat one text,
`streamed`. The inner stream is known by its answers, so an operation carries the
answer it gets; a read whose future is dropped before the answer does nothing.

1. `StreamOp.ends`: the operations that set the `terminal` flag, which nothing but
   `drop` looks at;
2. `stream_lifecycle`: what the interceptors are told of a stream, for any operations
   on it. Up to the first operation that ends the stream it is `Started`, at most one
   `Opened`, a `MessageRead` for each message, and then that operation's event, unless
   the trailers cannot be copied;
3. `ended_twice_or_never`: an operation after the ending may report a second one, and
   an ending that cannot be copied is told to nobody.
-/

namespace GrpcEgress

open PatternEgressInterceptor

/-- `PatternResponseStream`, less the inner stream and the adapter. -/
structure PatternResponseStream where
  call : CallIdentity
  opened : Bool
  terminal : Bool
deriving DecidableEq

/-- An operation of the consumer, with the answer of the inner stream. -/
inductive StreamOp (μ : Type) where
  | readMessage (answer : Except CallError (Option μ))
  | getHeaders (answer : Except CallError MetadataView)
  | readTrailers (answer : Except CallError MetadataView)
  | abandonedRead

/-- What the consumer is given. -/
inductive Given (μ : Type) where
  | message (result : Except CallError (Option μ))
  | metadata (result : Except CallError MetadataView)
  | nothing

/-- One operation: the events it reports, its result and the stream it leaves. -/
structure Turn (μ : Type) where
  events : List (CallEvent MetadataView)
  given : Given μ
  stream : PatternResponseStream

namespace PatternResponseStream

variable {μ : Type} (stream : PatternResponseStream)

/-- A stream as it is built. -/
def fresh (call : CallIdentity) : PatternResponseStream := ⟨call, false, false⟩

/-- `notify_opened`, with the inner answer to `get_headers`. -/
def notifyOpened (answer : Except CallError MetadataView) :
    List (CallEvent MetadataView) × PatternResponseStream :=
  match answer with
  | .ok headers => ([.opened stream.call headers], { stream with opened := true })
  | .error _ => ([], stream)

/-- `read_message`. -/
def readMessage (answer : Except CallError (Option μ)) : Turn μ :=
  match answer with
  | .ok message =>
    ⟨if message.isSome then [.messageRead stream.call] else [], .message (.ok message), stream⟩
  | .error e => ⟨[.failed stream.call e], .message (.error e), { stream with terminal := true }⟩

/-- `get_headers`. -/
def getHeaders (answer : Except CallError MetadataView) : Turn μ :=
  match answer with
  | .ok headers =>
    ⟨if stream.opened then [] else [.opened stream.call headers], .metadata (.ok headers),
      { stream with opened := true }⟩
  | .error e => ⟨[], .metadata (.error e), stream⟩

/-- `read_trailers`. -/
def readTrailers (answer : Except CallError MetadataView) : Turn μ :=
  match answer with
  | .ok trailers =>
    ⟨[.completed stream.call none trailers], .metadata (.ok trailers),
      { stream with terminal := true }⟩
  | .error e => ⟨[.failed stream.call e], .metadata (.error e), { stream with terminal := true }⟩

/-- `drop`. -/
def drop : List (CallEvent MetadataView) := if stream.terminal then [] else [.cancelled stream.call]

/-- One operation. -/
def step : StreamOp μ → Turn μ
  | .readMessage answer => stream.readMessage answer
  | .getHeaders answer => stream.getHeaders answer
  | .readTrailers answer => stream.readTrailers answer
  | .abandonedRead => ⟨[], .nothing, stream⟩

/-- The life of a stream: its operations, then its drop. -/
def consume : PatternResponseStream → List (StreamOp μ) →
    List (CallEvent MetadataView) × List (Given μ)
  | stream, [] => (stream.drop, [])
  | stream, op :: ops =>
    let turn := stream.step op
    let rest := turn.stream.consume ops
    (turn.events ++ rest.1, turn.given :: rest.2)

end PatternResponseStream

namespace InterceptedTransport

variable {ε μ σ : Type} (rules : MetadataRules) (chain : GrpcEgressInterceptorChain)

/-- The text of the four calls. An opened inner stream answers with its headers. -/
def streamed (call : CallIdentity) (send : CallOptions → ε)
    (inner : ε → Except CallError (Except CallError MetadataView)) (options : CallOptions) :
    Intercepted ε PatternResponseStream :=
  match runBefore rules chain call options with
  | (log, .error e) => ⟨log, .error e⟩
  | (log, .ok options) =>
    match inner (send options) with
    | .error e => ⟨log ++ [.sent (send options), .reported (.failed call e)], .error e⟩
    | .ok headers =>
      let opened := (PatternResponseStream.fresh call).notifyOpened headers
      ⟨log ++ .sent (send options) :: opened.1.map .reported, .ok opened.2⟩

/-- `call_server_stream` of the method at `path`. -/
def callServerStream (path : String)
    (inner : CallRequest μ → Except CallError (Except CallError MetadataView))
    (request : CallRequest μ) : Intercepted (CallRequest μ) PatternResponseStream :=
  streamed rules chain ⟨path, .serverStream⟩ (fun options => ⟨request.message, options⟩) inner
    request.options

/-- `call_bidi_stream` of the method at `path`. -/
def callBidiStream (path : String)
    (inner : CallClientStreamRequest σ → Except CallError (Except CallError MetadataView))
    (request : CallClientStreamRequest σ) :
    Intercepted (CallClientStreamRequest σ) PatternResponseStream :=
  streamed rules chain ⟨path, .bidiStream⟩ (fun options => ⟨request.requests, options⟩) inner
    request.options

/-- `call_raw_server_stream`. -/
def callRawServerStream
    (inner : CallRawRequest → Except CallError (Except CallError MetadataView))
    (request : CallRawRequest) : Intercepted CallRawRequest PatternResponseStream :=
  streamed rules chain ⟨request.path, .serverStream⟩
    (fun options => ⟨request.path, request.message, options⟩) inner request.options

/-- `call_raw_bidi_stream`. -/
def callRawBidiStream
    (inner : CallRawClientStreamRequest σ → Except CallError (Except CallError MetadataView))
    (request : CallRawClientStreamRequest σ) :
    Intercepted (CallRawClientStreamRequest σ) PatternResponseStream :=
  streamed rules chain ⟨request.path, .bidiStream⟩
    (fun options => ⟨request.path, request.requests, options⟩) inner request.options

end InterceptedTransport

/-- The trace of a call and of the stream it returned, from the call to the drop. -/
def Intercepted.life {ε μ : Type} (out : Intercepted ε PatternResponseStream)
    (ops : List (StreamOp μ)) : List (Happening ε) :=
  match out.result with
  | .error _ => out.log
  | .ok stream => out.log ++ (stream.consume ops).1.map .reported

/-! ## Operations, by what they report -/

namespace StreamOp

variable {μ : Type}

/-- The operations that set the `terminal` flag. -/
@[simp]
def ends : StreamOp μ → Bool
  | .readMessage (.error _) | .readTrailers _ => true
  | .readMessage (.ok _) | .getHeaders _ | .abandonedRead => false

/-- The operations that set the `opened` flag. -/
@[simp]
def opens : StreamOp μ → Bool
  | .getHeaders (.ok _) => true
  | _ => false

/-- The event that an operation ends the stream with, as it is passed on. -/
@[simp]
def ending (rules : MetadataRules) (call : CallIdentity) : StreamOp μ → Option (CallEvent Metadata)
  | .readMessage (.error e) | .readTrailers (.error e) => some (.failed call e)
  | .readTrailers (.ok trailers) => (rules.copy trailers).toOption.map (.completed call none)
  | _ => none

/-- Operations of which nobody is told anything: `opened` says whether the headers
have been reported before. -/
@[simp]
def silent (rules : MetadataRules) (opened : Bool) : StreamOp μ → Bool
  | .readMessage (.ok message) => message.isNone
  | .getHeaders (.ok headers) => opened || (rules.copy headers).toOption.isNone
  | .readTrailers (.ok trailers) => (rules.copy trailers).toOption.isNone
  | .readMessage (.error _) | .readTrailers (.error _) => false
  | .getHeaders (.error _) | .abandonedRead => true

/-- `silent`, one operation after another. -/
def allSilent (rules : MetadataRules) : Bool → List (StreamOp μ) → Bool
  | _, [] => true
  | opened, op :: ops => op.silent rules opened && allSilent rules (opened || op.opens) ops

end StreamOp

/-- A message that the consumer was handed. -/
@[simp]
def Given.isMessage {μ : Type} : Given μ → Bool
  | .message (.ok read) => read.isSome
  | _ => false

namespace PatternResponseStream

section

variable {μ : Type} {rules : MetadataRules} {stream : PatternResponseStream}

/-- What the interceptors are told of one operation. -/
structure Tells (rules : MetadataRules) (stream : PatternResponseStream) (op : StreamOp μ)
    (told : List (CallEvent Metadata)) : Prop where
  started : ∀ event ∈ told, event.isStarted = false
  /-- `Opened` is told at most once, while the flag is not set. -/
  opened : told.countP CallEvent.isOpened + (!(stream.opened || op.opens)).toNat ≤
    (!stream.opened).toNat
  read : told.countP CallEvent.isMessageRead = (stream.step op).given.isMessage.toNat
  goesOn : op.ends = false → ∀ event ∈ told, event.isTerminal = false
  ends : op.ends = true → told = (op.ending rules stream.call).toList
  silent : op.silent rules stream.opened = true → told = []

/-- `notify_opened` tells an `Opened` or nothing, and leaves the stream unended. -/
theorem notifyOpened_tells (rules : MetadataRules) (call : CallIdentity)
    (answer : Except CallError MetadataView) :
    let opened := (fresh call).notifyOpened answer
    let told := opened.1.filterMap (forwarded rules)
    opened.2.call = call ∧ opened.2.terminal = false ∧
      (∀ event ∈ told, event.isStarted = false ∧ event.isTerminal = false) ∧
      told.countP CallEvent.isOpened + (!opened.2.opened).toNat ≤ 1 ∧
      told.countP CallEvent.isMessageRead = 0 := by
  cases answer with
  | error e => simp [notifyOpened, fresh]
  | ok headers =>
    cases copied : rules.copy headers with
    | error e => simp [notifyOpened, fresh, forwarded, copied]
    | ok copy => simp [notifyOpened, fresh, forwarded, copied]

theorem step_stream (op : StreamOp μ) : (stream.step op).stream =
    ⟨stream.call, stream.opened || op.opens, stream.terminal || op.ends⟩ := by
  obtain ⟨call, opened, terminal⟩ := stream
  cases op with
  | readMessage answer => cases answer <;> simp [step, readMessage, StreamOp.opens, StreamOp.ends]
  | getHeaders answer => cases answer <;> simp [step, getHeaders, StreamOp.opens, StreamOp.ends]
  | readTrailers answer => cases answer <;> simp [step, readTrailers, StreamOp.opens, StreamOp.ends]
  | abandonedRead => simp [step, StreamOp.opens, StreamOp.ends]

theorem step_tells (rules : MetadataRules) (stream : PatternResponseStream) (op : StreamOp μ) :
    Tells rules stream op ((stream.step op).events.filterMap (forwarded rules)) := by
  cases op with
  | readMessage answer =>
    rcases answer with e | (_ | message) <;> constructor <;> simp [step, readMessage, forwarded]
  | getHeaders answer =>
    cases answer with
    | error e => constructor <;> simp [step, getHeaders]
    | ok headers =>
      obtain ⟨call, opened, terminal⟩ := stream
      cases opened with
      | true => constructor <;> simp [step, getHeaders]
      | false =>
        cases copied : rules.copy headers with
        | error e => constructor <;> simp [step, getHeaders, forwarded, copied]
        | ok copy => constructor <;> simp [step, getHeaders, forwarded, copied, Except.toOption]
  | readTrailers answer =>
    cases answer with
    | error e => constructor <;> simp [step, readTrailers, forwarded]
    | ok trailers =>
      cases copied : rules.copy trailers with
      | error e => constructor <;> simp [step, readTrailers, forwarded, copied, Except.toOption]
      | ok copy => constructor <;> simp [step, readTrailers, forwarded, copied, Except.toOption]
  | abandonedRead => constructor <;> simp [step]

/-! ## Whole lives -/

/-- What is told of a life, operation by operation. -/
theorem told_cons (op : StreamOp μ) (ops : List (StreamOp μ)) :
    (stream.consume (op :: ops)).1.filterMap (forwarded rules) =
      (stream.step op).events.filterMap (forwarded rules) ++
        ((stream.step op).stream.consume ops).1.filterMap (forwarded rules) :=
  List.filterMap_append

theorem told_nil : (stream.consume ([] : List (StreamOp μ))).1.filterMap (forwarded rules) =
    if stream.terminal then [] else [.cancelled stream.call] := by
  unfold consume drop
  cases stream.terminal with
  | true => rfl
  | false => rfl

theorem consume_not_started (ops : List (StreamOp μ)) :
    ∀ event ∈ (stream.consume ops).1.filterMap (forwarded rules), event.isStarted = false := by
  induction ops generalizing stream with
  | nil =>
    rw [told_nil]
    cases stream.terminal <;> simp
  | cons op ops ih =>
    rw [told_cons, List.forall_mem_append]
    exact ⟨(step_tells rules _ op).started, ih⟩

theorem consume_opened (ops : List (StreamOp μ)) :
    ((stream.consume ops).1.filterMap (forwarded rules)).countP CallEvent.isOpened ≤
      (!stream.opened).toNat := by
  induction ops generalizing stream with
  | nil =>
    rw [told_nil]
    cases stream.terminal <;> simp
  | cons op ops ih =>
    rw [told_cons, List.countP_append]
    -- The flag that the operation leaves bounds what the later ones tell.
    have later := @ih (stream.step op).stream
    rw [step_stream] at later ⊢
    exact Nat.le_trans (Nat.add_le_add_left later _) (step_tells rules _ op).opened

theorem consume_read (ops : List (StreamOp μ)) :
    ((stream.consume ops).1.filterMap (forwarded rules)).countP CallEvent.isMessageRead =
      (stream.consume ops).2.countP Given.isMessage := by
  induction ops generalizing stream with
  | nil =>
    rw [told_nil]
    cases stream.terminal <;> rfl
  | cons op ops ih =>
    rw [told_cons, List.countP_append, ih, (step_tells rules _ op).read]
    show _ = List.countP _ (_ :: _)
    rw [List.countP_cons, Nat.add_comm]
    cases (stream.step op).given.isMessage <;> rfl

/-- A stream that no operation ends is cancelled by its drop. -/
theorem consume_cancelled (rules : MetadataRules) {ops : List (StreamOp μ)}
    (unended : stream.terminal = false) (goesOn : ∀ op ∈ ops, op.ends = false) :
    ∃ told, (stream.consume ops).1.filterMap (forwarded rules) =
        told ++ [.cancelled stream.call] ∧
      ∀ event ∈ told, event.isTerminal = false := by
  induction ops generalizing stream with
  | nil =>
    rw [told_nil, unended]
    exact ⟨[], rfl, fun _ member => (nomatch member)⟩
  | cons op ops ih =>
    rw [List.forall_mem_cons] at goesOn
    have still : (stream.step op).stream.terminal = false := by
      rw [step_stream, goesOn.1, unended]
      rfl
    obtain ⟨told, eq, before⟩ := ih still goesOn.2
    rw [told_cons, eq, ← List.append_assoc, step_stream]
    exact ⟨_, rfl, List.forall_mem_append.mpr ⟨(step_tells rules _ op).goesOn goesOn.1, before⟩⟩

/-- After the ending, silent operations and the drop tell nothing. -/
theorem consume_silent {ops : List (StreamOp μ)} (closed : stream.terminal = true)
    (silent : StreamOp.allSilent rules stream.opened ops = true) :
    (stream.consume ops).1.filterMap (forwarded rules) = [] := by
  induction ops generalizing stream with
  | nil =>
    rw [told_nil, closed]
    rfl
  | cons op ops ih =>
    unfold StreamOp.allSilent at silent
    rw [Bool.and_eq_true] at silent
    rw [told_cons, (step_tells rules _ op).silent silent.1]
    refine ih ?_ ?_
    · rw [step_stream, closed]
      rfl
    · rw [step_stream]
      exact silent.2

/-- The operation that ends a stream tells its own event, once. -/
theorem consume_ended (rules : MetadataRules) {before after : List (StreamOp μ)} {op : StreamOp μ}
    (goesOn : ∀ op ∈ before, op.ends = false) (ends : op.ends = true) :
    ∃ told later, (stream.consume (before ++ op :: after)).1.filterMap (forwarded rules) =
        told ++ ((op.ending rules stream.call).toList ++ later) ∧
      (∀ event ∈ told, event.isTerminal = false) ∧
      (StreamOp.allSilent rules (stream.opened || before.any StreamOp.opens) after = true →
        later = []) := by
  induction before generalizing stream with
  | nil =>
    show ∃ told later, (stream.consume (op :: after)).1.filterMap (forwarded rules) = _ ∧ _
    rw [told_cons, (step_tells rules _ op).ends ends]
    refine ⟨[], _, rfl, fun _ member => (nomatch member), fun silent => consume_silent ?_ ?_⟩
    · rw [step_stream, ends, Bool.or_true]
    · -- An operation that ends the stream is none that opens it.
      have opens : op.opens = false := by
        cases op with
        | getHeaders answer => cases ends
        | readMessage answer => rfl
        | readTrailers answer => rfl
        | abandonedRead => rfl
      rw [step_stream, opens]
      exact silent
  | cons first before ih =>
    rw [List.forall_mem_cons] at goesOn
    obtain ⟨told, later, eq, clean, silent⟩ := @ih (stream.step first).stream goesOn.2
    rw [List.cons_append, told_cons, eq, ← List.append_assoc]
    rw [step_stream] at silent ⊢
    refine ⟨_, later, rfl,
      List.forall_mem_append.mpr ⟨(step_tells rules _ first).goesOn goesOn.1, clean⟩,
      fun quiet => ?_⟩
    rw [List.any_cons, ← Bool.or_assoc] at quiet
    exact silent quiet

end

end PatternResponseStream

/-! ## The calls that return a stream -/

/-- A call and its stream are reported with one ending: `Started`, at most one `Opened`,
a `MessageRead` for each of the messages, one terminal event, and nothing after it. -/
structure OneEnding (call : CallIdentity) (messages : Nat) (told : List (CallEvent Metadata)) :
    Prop where
  started : ∃ rest, told = .started call :: rest ∧ ∀ event ∈ rest, event.isStarted = false
  opened : told.countP CallEvent.isOpened ≤ 1
  read : told.countP CallEvent.isMessageRead = messages
  ending : ∃ before last, told = before ++ [last] ∧ last.isTerminal = true ∧
    ∀ event ∈ before, event.isTerminal = false

/-- What the interceptors are told of a call and its stream. -/
structure Lifecycle {μ : Type} (rules : MetadataRules) (call : CallIdentity)
    (stream : PatternResponseStream) (ops : List (StreamOp μ)) (told : List (CallEvent Metadata)) :
    Prop where
  started : ∃ rest, told = .started call :: rest ∧ ∀ event ∈ rest, event.isStarted = false
  opened : told.countP CallEvent.isOpened ≤ 1
  read : told.countP CallEvent.isMessageRead = (stream.consume ops).2.countP Given.isMessage
  /-- A stream that no operation ends is cancelled by its drop. -/
  cancelled : (∀ op ∈ ops, op.ends = false) → ∃ before, told = before ++ [.cancelled call] ∧
    ∀ event ∈ before, event.isTerminal = false
  /-- Else nothing terminal is told before the operation that ends it, which tells its
  own event; then nothing more, if the later operations are silent. -/
  ended : ∀ before op after, ops = before ++ op :: after → (∀ op ∈ before, op.ends = false) →
    op.ends = true → ∃ first later, told = first ++ ((op.ending rules call).toList ++ later) ∧
      (∀ event ∈ first, event.isTerminal = false) ∧
      (StreamOp.allSilent rules (stream.opened || before.any StreamOp.opens) after = true →
        later = [])

/-- Operations after which a stream has been reported with one ending: none ends it, or
one does, its event is passed on and the later operations are silent. -/
def EndsOnce {μ : Type} (rules : MetadataRules) (call : CallIdentity) (opened : Bool)
    (ops : List (StreamOp μ)) : Prop :=
  (∀ op ∈ ops, op.ends = false) ∨
  ∃ before op after event, ops = before ++ op :: after ∧ (∀ op ∈ before, op.ends = false) ∧
    op.ends = true ∧ op.ending rules call = some event ∧
    StreamOp.allSilent rules (opened || before.any StreamOp.opens) after = true

theorem StreamOp.ending_isTerminal {μ : Type} {rules : MetadataRules} {call : CallIdentity}
    {op : StreamOp μ} {event : CallEvent Metadata} (h : op.ending rules call = some event) :
    event.isTerminal = true := by
  cases op with
  | readMessage answer =>
    cases answer with
    | error e => cases h; rfl
    | ok message => cases h
  | readTrailers answer =>
    cases answer with
    | error e => cases h; rfl
    | ok trailers =>
      obtain ⟨copied, -, rfl⟩ := Option.map_eq_some_iff.mp h
      rfl
  | getHeaders answer => cases h
  | abandonedRead => cases h

theorem StreamOp.ends_of_ending {μ : Type} {rules : MetadataRules} {call : CallIdentity}
    {op : StreamOp μ} {event : CallEvent Metadata} (h : op.ending rules call = some event) :
    op.ends = true := by
  cases op with
  | readMessage answer =>
    cases answer with
    | error e => rfl
    | ok message => cases h
  | readTrailers answer => rfl
  | getHeaders answer => cases h
  | abandonedRead => cases h

theorem Lifecycle.oneEnding {μ : Type} {rules : MetadataRules} {call : CallIdentity}
    {stream : PatternResponseStream} {ops : List (StreamOp μ)} {told : List (CallEvent Metadata)}
    (life : Lifecycle rules call stream ops told) (once : EndsOnce rules call stream.opened ops) :
    OneEnding call ((stream.consume ops).2.countP Given.isMessage) told where
  started := life.started
  opened := life.opened
  read := life.read
  ending := by
    rcases once with goesOn | ⟨before, op, after, event, split, goesOn, ends, passed, silent⟩
    · obtain ⟨first, eq, clean⟩ := life.cancelled goesOn
      exact ⟨first, _, eq, rfl, clean⟩
    · obtain ⟨first, later, eq, clean, quiet⟩ := life.ended before op after split goesOn ends
      rw [quiet silent, passed] at eq
      exact ⟨first, event, eq, StreamOp.ending_isTerminal passed, clean⟩

namespace InterceptedTransport

open PatternResponseStream

section

variable {ε μ σ : Type} {rules : MetadataRules} {chain : GrpcEgressInterceptorChain}
  {call : CallIdentity} {send : CallOptions → ε}
  {inner : ε → Except CallError (Except CallError MetadataView)} {options : CallOptions}
  {stream : PatternResponseStream}

/-- A call that returns a stream reports its start and what `notify_opened` reports. -/
theorem streamed_ok (ok : (streamed rules chain call send inner options).result = .ok stream) :
    ∃ headers, stream = ((fresh call).notifyOpened headers).2 ∧
      reports (streamed rules chain call send inner options).log =
        .started call :: ((fresh call).notifyOpened headers).1 := by
  cases sent : optionsSent rules chain call.path options with
  | error e =>
    obtain ⟨n, -, -, ran⟩ := runBefore_refused (ε := ε) sent
    simp only [streamed, ran] at ok
    cases ok
  | ok o =>
    simp only [streamed, runBefore_accepted sent] at ok ⊢
    cases answer : inner (send o) with
    | error e =>
      simp only [answer] at ok
      cases ok
    | ok headers =>
      simp only [answer] at ok ⊢
      cases ok
      refine ⟨headers, rfl, ?_⟩
      rw [reports_append, reports_append, reports_befores]
      show .started call :: reports (List.map _ _) = _
      rw [reports_reported]

theorem streamed_lifecycle (ok : (streamed rules chain call send inner options).result = .ok stream)
    {k : Nat} (member : k < chain.length) (ops : List (StreamOp μ)) :
    Lifecycle rules call stream ops
      (toldTo rules chain k ((streamed rules chain call send inner options).life ops)) := by
  obtain ⟨headers, rfl, reported⟩ := streamed_ok ok
  obtain ⟨sameCall, unended, clean, openedOnce, unread⟩ :=
    notifyOpened_tells rules call headers
  -- `Started`, then what `notify_opened` told, then what the operations tell.
  have told : toldTo rules chain k ((streamed rules chain call send inner options).life ops) =
      .started call :: (((fresh call).notifyOpened headers).1.filterMap (forwarded rules) ++
        (((fresh call).notifyOpened headers).2.consume ops).1.filterMap (forwarded rules)) := by
    have started : forwarded rules (.started call) = some (.started call) := rfl
    simp only [Intercepted.life, ok]
    rw [toldTo_eq member, reports_append, reports_reported, reported, List.cons_append,
      List.filterMap_cons_some started, List.filterMap_append]
  rw [told]
  constructor
  case started =>
    refine ⟨_, rfl, List.forall_mem_append.mpr ⟨fun event member => (clean event member).1, ?_⟩⟩
    exact consume_not_started ops
  case opened =>
    rw [List.countP_cons, List.countP_append]
    exact Nat.le_trans (Nat.add_le_add_left (consume_opened ops) _) openedOnce
  case read =>
    rw [List.countP_cons, List.countP_append, unread, Nat.zero_add, consume_read]
    rfl
  case cancelled =>
    intro goesOn
    obtain ⟨later, eq, before⟩ := consume_cancelled rules unended goesOn
    rw [eq, sameCall, ← List.append_assoc, ← List.cons_append]
    refine ⟨_, rfl, List.forall_mem_cons.mpr ⟨rfl, List.forall_mem_append.mpr ⟨?_, before⟩⟩⟩
    exact fun event member => (clean event member).2
  case ended =>
    rintro before op after rfl goesOn ends
    obtain ⟨first, later, eq, before, silent⟩ := consume_ended rules goesOn ends
    rw [eq, sameCall, ← List.append_assoc, ← List.cons_append]
    refine ⟨_, later, rfl, List.forall_mem_cons.mpr ⟨rfl, List.forall_mem_append.mpr ⟨?_, before⟩⟩,
      silent⟩
    exact fun event member => (clean event member).2

/-- Every stream that a call returns is reported as `Lifecycle` says, to every
interceptor and whatever the consumer does with it; so with one ending, if it ends
once. -/
def StreamsReported (μ : Type) (rules : MetadataRules)
    (chain : GrpcEgressInterceptorChain) (call : CallIdentity)
    (out : Intercepted ε PatternResponseStream) : Prop :=
  ∀ stream, out.result = .ok stream → ∀ k < chain.length, ∀ ops : List (StreamOp μ),
    Lifecycle rules call stream ops (toldTo rules chain k (out.life ops)) ∧
    (EndsOnce rules call stream.opened ops →
      OneEnding call ((stream.consume ops).2.countP Given.isMessage)
        (toldTo rules chain k (out.life ops)))

theorem streamed_reported (μ : Type) : StreamsReported μ rules chain call
    (streamed rules chain call send inner options) :=
  fun _ ok _ member ops =>
    ⟨streamed_lifecycle ok member ops, (streamed_lifecycle ok member ops).oneEnding⟩

end

/-- What is told of a stream from any of the four calls. -/
theorem stream_lifecycle {μ σ : Type} (ρ : Type) (rules : MetadataRules)
    (chain : GrpcEgressInterceptorChain) :
    (∀ (path : String) (inner : CallRequest μ → Except CallError (Except CallError MetadataView))
      (request : CallRequest μ), StreamsReported ρ rules chain ⟨path, .serverStream⟩
        (callServerStream rules chain path inner request)) ∧
    (∀ (path : String)
      (inner : CallClientStreamRequest σ → Except CallError (Except CallError MetadataView))
      (request : CallClientStreamRequest σ), StreamsReported ρ rules chain ⟨path, .bidiStream⟩
        (callBidiStream rules chain path inner request)) ∧
    (∀ (inner : CallRawRequest → Except CallError (Except CallError MetadataView))
      (request : CallRawRequest), StreamsReported ρ rules chain ⟨request.path, .serverStream⟩
        (callRawServerStream rules chain inner request)) ∧
    (∀ (inner : CallRawClientStreamRequest σ → Except CallError (Except CallError MetadataView))
      (request : CallRawClientStreamRequest σ),
      StreamsReported ρ rules chain ⟨request.path, .bidiStream⟩
        (callRawBidiStream rules chain inner request)) :=
  ⟨fun _ _ _ => streamed_reported ρ, fun _ _ _ => streamed_reported ρ,
    fun _ _ => streamed_reported ρ, fun _ _ => streamed_reported ρ⟩

end InterceptedTransport

/-! ## Two endings, or none -/

/-- An interceptor that only watches. -/
def watcher : GrpcEgressInterceptor := ⟨.done (.ok ()), fun _ => .ok ()⟩

/-- A builder that refuses no metadata. -/
def lenient : MetadataRules := ⟨fun _ _ => none, fun _ _ => none, fun _ => none⟩

/-- A raw server-streaming call that one interceptor watches and the peer accepts. -/
def watched : Intercepted CallRawRequest PatternResponseStream :=
  InterceptedTransport.callRawServerStream lenient
    (GrpcEgressInterceptorChain.push [] watcher) (fun _ => .ok (.ok Metadata.empty.view))
    ⟨"/test.Peer/Numbers", [8, 2], ⟨none, .empty⟩⟩

/-- The peer breaks off. -/
def brokenOff : CallError := .status "/test.Peer/Numbers" .internal "broken off" .empty

/-- A consumer that asks for the trailers after a failed read is told of one failure
and the interceptor of two; trailers with a binary entry that cannot be decoded reach
the consumer, and no terminal event reaches the interceptor. -/
theorem ended_twice_or_never :
    ¬ OneEnding ⟨"/test.Peer/Numbers", .serverStream⟩ 0
      (toldTo lenient (GrpcEgressInterceptorChain.push [] watcher) 0
        (watched.life (μ := List UInt8)
          [.readMessage (.error brokenOff), .readTrailers (.error brokenOff)])) ∧
    ¬ OneEnding ⟨"/test.Peer/Numbers", .serverStream⟩ 0
      (toldTo lenient (GrpcEgressInterceptorChain.push [] watcher) 0
        (watched.life (μ := List UInt8)
          [.readTrailers (.ok ⟨.ok [], .ok [.error "invalid base64"]⟩)])) := by
  constructor
  · rintro ⟨-, -, -, before, last, told, -, clean⟩
    have eq : [.started ⟨"/test.Peer/Numbers", .serverStream⟩,
        .opened ⟨"/test.Peer/Numbers", .serverStream⟩ .empty,
        .failed ⟨"/test.Peer/Numbers", .serverStream⟩ brokenOff] = before := by
      rw [← @List.dropLast_concat _ before last, ← told]
      rfl
    have member : .failed ⟨"/test.Peer/Numbers", .serverStream⟩ brokenOff ∈ before := by
      rw [← eq]
      exact .tail _ (.tail _ (.head _))
    exact absurd (clean _ member) Bool.noConfusion
  · rintro ⟨-, -, -, before, last, told, terminal, -⟩
    have eq : some (.opened ⟨"/test.Peer/Numbers", .serverStream⟩ .empty) = some last := by
      rw [← List.getLast?_concat (l := before) (a := last), ← told]
      rfl
    cases eq
    cases terminal

/-- The same call, read to its end. -/
theorem watched_ends_once : ∃ stream, watched.result = .ok stream ∧
    OneEnding ⟨"/test.Peer/Numbers", .serverStream⟩ 1
      (toldTo lenient (GrpcEgressInterceptorChain.push [] watcher) 0 (watched.life (μ := List UInt8)
        [.readMessage (.ok (some [8, 1])), .readTrailers (.ok Metadata.empty.view)])) :=
  ⟨_, rfl, ((InterceptedTransport.stream_lifecycle (μ := Unit) (σ := Unit) (List UInt8) lenient
    (GrpcEgressInterceptorChain.push [] watcher)).2.2.1 (fun _ => .ok (.ok Metadata.empty.view))
      ⟨"/test.Peer/Numbers", [8, 2], ⟨none, .empty⟩⟩ _ rfl 0 (by decide) _).2
        (.inr ⟨[.readMessage (.ok (some [8, 1]))], .readTrailers (.ok Metadata.empty.view), [], _,
          rfl, by decide, rfl, rfl, rfl⟩)⟩

end GrpcEgress
