import GrpcEgress.Interceptor.Stream

/-!
# Calls that are let go

A caller may drop the future of a call, or the stream it returned, at any time. Every
one of the eight calls waits in one place, for the wrapped client, so a call is let go
of before its future is polled, while the wrapped client has not answered, or after
its own answer. A stream is then dropped after any number of operations.

Only `PatternResponseStream` has a destructor. A call that is let go of while it waits
has done what comes before the wait (`awaiting`), and nothing after it. `ended_once_iff`
is when a call that started has one terminal event in the end, among the events it
reported and among those each interceptor is told of, for the eight calls;
`started_and_forgotten` is a call that is dropped while it waits.
-/

namespace GrpcEgress

open PatternEgressInterceptor PatternResponseStream

/-- When the caller lets go of a call. -/
inductive LetGo where
  | unpolled | pending | answered
deriving DecidableEq

/-- The trace of a call, from its trace up to the wrapped client and its whole trace. -/
def LetGo.trace {ε : Type} (pending answered : List (Happening ε)) : LetGo → List (Happening ε)
  | .unpolled => []
  | .pending => pending
  | .answered => answered

/-- A call that started among these events has exactly one terminal event there. -/
def EndedOnce {ν : Type} (events : List (CallEvent ν)) : Prop :=
  events.any CallEvent.isStarted = true → events.countP CallEvent.isTerminal = 1

instance {ν : Type} (events : List (CallEvent ν)) : Decidable (EndedOnce events) :=
  inferInstanceAs (Decidable (_ → _))

theorem endedOnce_nil {ν : Type} : EndedOnce ([] : List (CallEvent ν)) :=
  fun started => (nomatch started)

theorem endedOnce_started {ν : Type} {call : CallIdentity} {rest : List (CallEvent ν)} :
    EndedOnce (.started call :: rest) ↔ rest.countP CallEvent.isTerminal = 1 :=
  ⟨fun once => once rfl, fun once _ => once⟩

/-- When a call that started has its one ending: among the events it reported iff the
first condition holds, among those that each interceptor is told of iff the second. -/
structure EndedOnceIff {ε : Type} (rules : MetadataRules) (chain : GrpcEgressInterceptorChain)
    (log : List (Happening ε)) (reported told : Prop) : Prop where
  reported : EndedOnce (reports log) ↔ reported
  told : ∀ k < chain.length, (EndedOnce (toldTo rules chain k log) ↔ told)

theorem EndedOnceIff.congr {ε : Type} {rules : MetadataRules} {chain : GrpcEgressInterceptorChain}
    {log : List (Happening ε)} {reported reported' told told' : Prop}
    (h : EndedOnceIff rules chain log reported told) (same : reported ↔ reported')
    (same' : told ↔ told') : EndedOnceIff rules chain log reported' told' where
  reported := h.reported.trans same
  told k member := (h.told k member).trans same'

theorem endedOnceIff_of_nothing {ε : Type} {rules : MetadataRules}
    {chain : GrpcEgressInterceptorChain} {log : List (Happening ε)} {reported told : Prop}
    (nothing : reports log = []) (holds : reported) (holds' : told) :
    EndedOnceIff rules chain log reported told where
  reported := by
    rw [nothing]
    exact ⟨fun _ => holds, fun _ => endedOnce_nil⟩
  told k member := by
    rw [toldTo_eq member, nothing]
    exact ⟨fun _ => holds', fun _ => endedOnce_nil⟩

/-- What is told of a call that started. -/
theorem toldTo_started {ε : Type} {rules : MetadataRules} {chain : GrpcEgressInterceptorChain}
    {log : List (Happening ε)} {call : CallIdentity} {rest : List (CallEvent MetadataView)}
    (started : reports log = .started call :: rest) {k : Nat} (member : k < chain.length) :
    toldTo rules chain k log =
      .started call :: rest.filterMap (forwarded rules) := by
  have passed : forwarded rules (.started call) = some (.started call) := rfl
  rw [toldTo_eq member, started, List.filterMap_cons_some passed]

/-- The operations whose ending the interceptors are told of: not the reading of
trailers that cannot be copied. -/
def StreamOp.tellsEnding {μ : Type} (rules : MetadataRules) (call : CallIdentity)
    (op : StreamOp μ) : Bool := (op.ending rules call).isSome

namespace InterceptedTransport

variable {ε ρ μ σ : Type} (rules : MetadataRules) (chain : GrpcEgressInterceptorChain)

/-- The text of the eight calls up to the `await`. -/
def awaiting (call : CallIdentity) (send : CallOptions → ε) (options : CallOptions) :
    List (Happening ε) :=
  match runBefore rules chain call options with
  | (log, .error _) => log
  | (log, .ok options) => log ++ [.sent (send options)]

/-- The call is not dropped while it waits for the wrapped client, or it was refused. -/
def NotAbandoned (letGo : LetGo) (path : String) (options : CallOptions) : Prop :=
  letGo = .pending → ∃ e, optionsSent rules chain path options = .error e

/-- At most one operation ends the stream, if there was one. -/
def EndedAtMostOnce (letGo : LetGo) (path : String) (send : CallOptions → ε)
    (inner : ε → Except CallError (Except CallError MetadataView)) (options : CallOptions)
    (ops : List (StreamOp μ)) : Prop :=
  letGo = .answered → ∀ o headers, optionsSent rules chain path options = .ok o →
    inner (send o) = .ok headers → ops.countP StreamOp.ends ≤ 1

/-- No operation ends the stream, or one tells its ending. -/
def EndingToldOnce (letGo : LetGo) (call : CallIdentity) (send : CallOptions → ε)
    (inner : ε → Except CallError (Except CallError MetadataView)) (options : CallOptions)
    (ops : List (StreamOp μ)) : Prop :=
  letGo = .answered → ∀ o headers, optionsSent rules chain call.path options = .ok o →
    inner (send o) = .ok headers → (∀ op ∈ ops, op.ends = false) ∨
      ops.countP (StreamOp.tellsEnding rules call) = 1

section

variable {rules : MetadataRules} {chain : GrpcEgressInterceptorChain} {call : CallIdentity}
  {send : CallOptions → ε} {options : CallOptions}

/-! ## What is reported on the way -/

theorem reports_awaiting_refused {e : CallError}
    (refused : optionsSent rules chain call.path options = .error e) :
    reports (awaiting rules chain call send options) = [] := by
  obtain ⟨n, -, -, ran⟩ := runBefore_refused (ε := ε) refused
  simp only [awaiting, ran]
  exact reports_befores _

theorem reports_awaiting_sent (send : CallOptions → ε) {o : CallOptions}
    (sent : optionsSent rules chain call.path options = .ok o) :
    reports (awaiting rules chain call send options) = [.started call] := by
  simp only [awaiting, runBefore_accepted sent]
  rw [reports_append, reports_append, reports_befores]
  rfl

/-- The reply policy reports nothing itself. -/
theorem reports_runAfterEgress (rules : MetadataRules) (chain : GrpcEgressInterceptorChain)
    (path : String) (headers trailers : MetadataView) :
    reports (runAfterEgress rules chain path headers trailers : List (Happening ε) × _).1 = [] := by
  unfold runAfterEgress
  split
  · rfl
  · cases rules.copy headers with
    | error e => rfl
    | ok headers =>
      cases rules.copy trailers with
      | error e => rfl
      | ok trailers => exact reports_afters _

theorem reports_runAfter (rules : MetadataRules) (chain : GrpcEgressInterceptorChain)
    (call : CallIdentity) (headers trailers : MetadataView) :
    ∃ event, event.isTerminal = true ∧
      reports (runAfter rules chain call headers trailers : List (Happening ε) × _).1 =
        [event] := by
  have silent := reports_runAfterEgress (ε := ε) rules chain call.path headers trailers
  unfold runAfter
  generalize runAfterEgress rules chain call.path headers trailers = ran at silent ⊢
  rcases ran with ⟨log, e | done⟩
  · refine ⟨.failed call e, rfl, ?_⟩
    show reports (log ++ _) = _
    rw [reports_append, show reports log = [] from silent]
    rfl
  · refine ⟨.completed call (some headers) trailers, rfl, ?_⟩
    show reports (log ++ _) = _
    rw [reports_append, show reports log = [] from silent]
    rfl

/-- A call with one reply that runs to its end reports its start and one ending. -/
theorem reports_replied_sent {o : CallOptions} (inner : ε → Except CallError (CallResponse ρ))
    (sent : optionsSent rules chain call.path options = .ok o) :
    ∃ event, event.isTerminal = true ∧
      reports (replied rules chain call send inner options).log = [.started call, event] := by
  simp only [replied, runBefore_accepted sent]
  cases inner (send o) with
  | error e =>
    refine ⟨.failed call e, rfl, ?_⟩
    show reports (_ ++ _ ++ _) = _
    rw [reports_append, reports_append, reports_befores]
    rfl
  | ok response =>
    obtain ⟨event, terminal, ran⟩ :=
      reports_runAfter (ε := ε) rules chain call response.headers response.trailers
    refine ⟨event, terminal, ?_⟩
    show reports (_ ++ _ ++ ([.sent (send o)] ++ _)) = _
    rw [reports_append, reports_append, reports_append, reports_befores, ran]
    rfl

theorem reports_replied_refused {e : CallError}
    (inner : ε → Except CallError (CallResponse ρ))
    (refused : optionsSent rules chain call.path options = .error e) :
    reports (replied rules chain call send inner options).log = [] := by
  obtain ⟨n, -, -, out⟩ := replied_refused send inner refused
  rw [out]
  exact reports_befores _

theorem step_terminals (stream : PatternResponseStream) (op : StreamOp μ) :
    (stream.step op).events.countP CallEvent.isTerminal = op.ends.toNat := by
  cases op with
  | readMessage answer => rcases answer with e | (_ | message) <;> simp [step, readMessage]
  | getHeaders answer =>
    cases answer with
    | error e => rfl
    | ok headers =>
      unfold step getHeaders
      cases stream.opened <;> rfl
  | readTrailers answer => cases answer <;> rfl
  | abandonedRead => rfl

/-- A stream reports one terminal event for each operation that ends it, and one at
its drop if none did. -/
theorem consume_terminals (stream : PatternResponseStream) (ops : List (StreamOp μ)) :
    (stream.consume ops).1.countP CallEvent.isTerminal =
      ops.countP StreamOp.ends + (!(stream.terminal || ops.any StreamOp.ends)).toNat := by
  induction ops generalizing stream with
  | nil =>
    unfold consume drop
    cases stream.terminal <;> rfl
  | cons op ops ih =>
    show List.countP _ ((stream.step op).events ++ ((stream.step op).stream.consume ops).1) = _
    rw [List.countP_append, step_terminals, ih, step_stream, List.countP_cons, List.any_cons,
      Bool.or_assoc, ← Nat.add_assoc, Nat.add_comm op.ends.toNat]
    -- An operation that ends the stream leaves nothing for its drop.
    cases op.ends <;> rfl

/-- So there is one terminal event iff at most one operation ends the stream. -/
theorem consume_once_iff {stream : PatternResponseStream} (unended : stream.terminal = false)
    {ops : List (StreamOp μ)} :
    (stream.consume ops).1.countP CallEvent.isTerminal = 1 ↔ ops.countP StreamOp.ends ≤ 1 := by
  rw [consume_terminals, unended, Bool.false_or]
  cases anyEnds : ops.any StreamOp.ends with
  | false =>
    have zero : ops.countP StreamOp.ends = 0 :=
      List.countP_eq_zero.mpr fun op member => by
        rw [List.any_eq_false] at anyEnds
        exact anyEnds op member
    rw [zero]
    exact ⟨fun _ => Nat.zero_le 1, fun _ => rfl⟩
  | true =>
    have positive : 0 < ops.countP StreamOp.ends :=
      List.countP_pos_iff.mpr (List.any_eq_true.mp anyEnds)
    show ops.countP StreamOp.ends + 0 = 1 ↔ _
    exact ⟨Nat.le_of_eq, fun le => Nat.le_antisymm le positive⟩

theorem step_told_terminals (rules : MetadataRules) (stream : PatternResponseStream)
    (op : StreamOp μ) :
    ((stream.step op).events.filterMap (forwarded rules)).countP CallEvent.isTerminal =
      if op.tellsEnding rules stream.call then 1 else 0 := by
  unfold StreamOp.tellsEnding
  have tells := step_tells rules stream op
  cases ends : op.ends with
  | true =>
    rw [tells.ends ends]
    cases ending : op.ending rules stream.call with
    | none => rfl
    | some event =>
      show List.countP _ [event] = 1
      rw [List.countP_cons, StreamOp.ending_isTerminal ending]
      rfl
  | false =>
    rw [List.countP_eq_zero.mpr fun event member => by rw [tells.goesOn ends event member]; decide]
    cases ending : op.ending rules stream.call with
    | none => rfl
    | some event =>
      rw [StreamOp.ends_of_ending ending] at ends
      cases ends

/-- What is told of it: one terminal event for each such operation whose event is
passed on, and one at the drop if there was none. -/
theorem consume_told_terminals (rules : MetadataRules) (stream : PatternResponseStream)
    (ops : List (StreamOp μ)) :
    ((stream.consume ops).1.filterMap (forwarded rules)).countP CallEvent.isTerminal =
      ops.countP (StreamOp.tellsEnding rules stream.call) +
        (!(stream.terminal || ops.any StreamOp.ends)).toNat := by
  induction ops generalizing stream with
  | nil =>
    rw [told_nil]
    cases stream.terminal <;> rfl
  | cons op ops ih =>
    rw [told_cons, List.countP_append, step_told_terminals, ih, step_stream, List.countP_cons,
      List.any_cons, Bool.or_assoc, ← Nat.add_assoc]
    exact congrArg (· + _) (Nat.add_comm _ _)

/-- So one is told iff no operation ends the stream or one tells its ending. -/
theorem consume_told_once_iff {stream : PatternResponseStream} (unended : stream.terminal = false)
    {ops : List (StreamOp μ)} :
    ((stream.consume ops).1.filterMap (forwarded rules)).countP CallEvent.isTerminal = 1 ↔
      (∀ op ∈ ops, op.ends = false) ∨ ops.countP (StreamOp.tellsEnding rules stream.call) = 1 := by
  rw [consume_told_terminals, unended, Bool.false_or]
  cases anyEnds : ops.any StreamOp.ends with
  | false =>
    have goesOn : ∀ op ∈ ops, op.ends = false := fun op member => by
      rw [List.any_eq_false] at anyEnds
      exact Bool.eq_false_iff.mpr (anyEnds op member)
    have zero : ops.countP (StreamOp.tellsEnding rules stream.call) = 0 := by
      refine List.countP_eq_zero.mpr fun op member told => ?_
      obtain ⟨event, ending⟩ := Option.isSome_iff_exists.mp told
      exact Bool.false_ne_true ((goesOn op member).symm.trans (StreamOp.ends_of_ending ending))
    rw [zero]
    exact ⟨fun _ => .inl goesOn, fun _ => rfl⟩
  | true =>
    obtain ⟨op, member, ends⟩ := List.any_eq_true.mp anyEnds
    refine ⟨fun once => .inr once, fun once => once.resolve_left fun goesOn => ?_⟩
    exact Bool.false_ne_true ((goesOn op member).symm.trans ends)

theorem reports_streamed_refused {e : CallError}
    (inner : ε → Except CallError (Except CallError MetadataView))
    (refused : optionsSent rules chain call.path options = .error e) (ops : List (StreamOp μ)) :
    reports ((streamed rules chain call send inner options).life ops) = [] := by
  obtain ⟨n, -, -, ran⟩ := runBefore_refused (ε := ε) refused
  simp only [streamed, ran, Intercepted.life]
  exact reports_befores _

/-- A call that opens no stream reports its start and one ending. -/
theorem reports_streamed_failed {o : CallOptions} {e : CallError}
    (inner : ε → Except CallError (Except CallError MetadataView))
    (sent : optionsSent rules chain call.path options = .ok o)
    (answer : inner (send o) = .error e) (ops : List (StreamOp μ)) :
    reports ((streamed rules chain call send inner options).life ops) =
      [.started call, .failed call e] := by
  simp only [streamed, runBefore_accepted sent, answer, Intercepted.life]
  rw [reports_append, reports_append, reports_befores]
  rfl

theorem reports_streamed_opened {o : CallOptions} {headers : Except CallError MetadataView}
    (inner : ε → Except CallError (Except CallError MetadataView))
    (sent : optionsSent rules chain call.path options = .ok o)
    (answer : inner (send o) = .ok headers) (ops : List (StreamOp μ)) :
    ∃ opening, ∃ stream : PatternResponseStream, stream.call = call ∧ stream.terminal = false ∧
      opening.countP CallEvent.isTerminal = 0 ∧
      (opening.filterMap (forwarded rules)).countP CallEvent.isTerminal = 0 ∧
      reports ((streamed rules chain call send inner options).life ops) =
        .started call :: (opening ++ (stream.consume ops).1) := by
  have ok : (streamed rules chain call send inner options).result =
      .ok ((fresh call).notifyOpened headers).2 := by
    simp only [streamed, runBefore_accepted sent, answer]
  obtain ⟨headers', same, reported⟩ := streamed_ok ok
  obtain ⟨sameCall, unended, clean, -⟩ := notifyOpened_tells rules call headers'
  refine ⟨((fresh call).notifyOpened headers').1, _, sameCall, unended, ?_,
    List.countP_eq_zero.mpr fun event member => ?_, ?_⟩
  · cases headers' <;> rfl
  · rw [(clean event member).2]
    decide
  · simp only [Intercepted.life, ok]
    rw [reports_append, reports_reported, reported, same]
    rfl

/-! ## The ending of a call -/

/-- A call that is dropped while it waits has not ended, if it started. -/
theorem awaiting_ended_once_iff :
    EndedOnceIff rules chain (awaiting rules chain call send options)
      (∃ e, optionsSent rules chain call.path options = .error e)
      (∃ e, optionsSent rules chain call.path options = .error e) := by
  cases sent : optionsSent rules chain call.path options with
  | error e => exact endedOnceIff_of_nothing (reports_awaiting_refused sent) ⟨e, rfl⟩ ⟨e, rfl⟩
  | ok o =>
    have started := reports_awaiting_sent send sent
    constructor
    · rw [started, endedOnce_started]
      exact ⟨fun once => (nomatch once), fun ⟨_, refused⟩ => (nomatch refused)⟩
    · intro k member
      rw [toldTo_started started member, endedOnce_started]
      exact ⟨fun once => (nomatch once), fun ⟨_, refused⟩ => (nomatch refused)⟩

/-- The event that ends a call with one reply is terminal. -/
theorem Ends.isTerminal {result : Except CallError (CallResponse ρ)} {event : CallEvent Metadata}
    (ends : Ends rules call result event) : event.isTerminal = true := by
  cases result with
  | error e =>
    cases ends
    rfl
  | ok response =>
    obtain ⟨reply, -, rfl⟩ := ends
    rfl

theorem replied_ended_once (inner : ε → Except CallError (CallResponse ρ)) :
    EndedOnceIff rules chain (replied rules chain call send inner options).log True True := by
  cases sent : optionsSent rules chain call.path options with
  | error e => exact endedOnceIff_of_nothing (reports_replied_refused inner sent) trivial trivial
  | ok o =>
    constructor
    · obtain ⟨event, terminal, reported⟩ := reports_replied_sent inner sent
      rw [reported, endedOnce_started, List.countP_cons, terminal, iff_true]
      rfl
    · intro k member
      obtain ⟨last, told, ends⟩ := replied_faithful.observed k member o sent
      rw [told, endedOnce_started, List.countP_cons, ends.isTerminal, iff_true]
      rfl

/-- A stream ends once iff at most one operation ends it; an interceptor is told so iff
none does or one tells its ending. -/
theorem streamed_ended_once_iff (inner : ε → Except CallError (Except CallError MetadataView))
    (ops : List (StreamOp μ)) :
    EndedOnceIff rules chain ((streamed rules chain call send inner options).life ops)
      (∀ o headers, optionsSent rules chain call.path options = .ok o →
        inner (send o) = .ok headers → ops.countP StreamOp.ends ≤ 1)
      (∀ o headers, optionsSent rules chain call.path options = .ok o →
        inner (send o) = .ok headers → (∀ op ∈ ops, op.ends = false) ∨
          ops.countP (StreamOp.tellsEnding rules call) = 1) := by
  cases sent : optionsSent rules chain call.path options with
  | error e =>
    exact endedOnceIff_of_nothing (reports_streamed_refused inner sent ops)
      (fun _ _ ok => (nomatch ok)) (fun _ _ ok => (nomatch ok))
  | ok o =>
    cases answer : inner (send o) with
    | error e =>
      -- No stream came of the call: its failure is the one ending.
      have started := reports_streamed_failed inner sent answer ops
      constructor
      · rw [started, endedOnce_started]
        refine ⟨fun _ o' headers same ok => ?_, fun _ => rfl⟩
        cases same
        exact absurd (answer.symm.trans ok) (by intro impossible; cases impossible)
      · intro k member
        rw [toldTo_started started member, endedOnce_started]
        refine ⟨fun _ o' headers same ok => ?_, fun _ => rfl⟩
        cases same
        exact absurd (answer.symm.trans ok) (by intro impossible; cases impossible)
    | ok headers =>
      obtain ⟨opening, stream, rfl, unended, clean, clean', started⟩ :=
        reports_streamed_opened inner sent answer ops
      constructor
      · rw [started, endedOnce_started, List.countP_append, clean, Nat.zero_add,
          consume_once_iff unended]
        exact ⟨fun once _ _ _ _ => once, fun once => once o headers rfl answer⟩
      · intro k member
        rw [toldTo_started started member, endedOnce_started, List.filterMap_append,
          List.countP_append, clean', Nat.zero_add, consume_told_once_iff unended]
        exact ⟨fun once _ _ _ _ => once, fun once => once o headers rfl answer⟩

/-- When a call with one reply is reported with its ending. -/
theorem reply_ended_once_iff (inner : ε → Except CallError (CallResponse ρ)) (letGo : LetGo) :
    EndedOnceIff rules chain (letGo.trace (awaiting rules chain call send options)
        (replied rules chain call send inner options).log)
      (NotAbandoned rules chain letGo call.path options)
      (NotAbandoned rules chain letGo call.path options) := by
  cases letGo with
  | unpolled => exact endedOnceIff_of_nothing rfl (fun h => (nomatch h)) (fun h => (nomatch h))
  | pending =>
    have same {p : Prop} : p ↔ (LetGo.pending = .pending → p) := ⟨fun h _ => h, fun h => h rfl⟩
    exact awaiting_ended_once_iff.congr same same
  | answered =>
    have same {p : Prop} : True ↔ (LetGo.answered = .pending → p) :=
      ⟨fun _ h => (nomatch h), fun _ => trivial⟩
    exact (replied_ended_once inner).congr same same

/-- When a call with a stream is. -/
theorem stream_ended_once_iff (inner : ε → Except CallError (Except CallError MetadataView))
    (ops : List (StreamOp μ)) (letGo : LetGo) :
    EndedOnceIff rules chain (letGo.trace (awaiting rules chain call send options)
        ((streamed rules chain call send inner options).life ops))
      (NotAbandoned rules chain letGo call.path options ∧
        EndedAtMostOnce rules chain letGo call.path send inner options ops)
      (NotAbandoned rules chain letGo call.path options ∧
        EndingToldOnce rules chain letGo call send inner options ops) := by
  cases letGo with
  | unpolled =>
    exact endedOnceIff_of_nothing rfl ⟨fun h => (nomatch h), fun h => (nomatch h)⟩
      ⟨fun h => (nomatch h), fun h => (nomatch h)⟩
  | pending =>
    have same {p q : Prop} : p ↔ (LetGo.pending = .pending → p) ∧ (LetGo.pending = .answered → q) :=
      ⟨fun h => ⟨fun _ => h, fun h => (nomatch h)⟩, fun h => h.1 rfl⟩
    exact awaiting_ended_once_iff.congr same same
  | answered =>
    have same {p q : Prop} :
        q ↔ (LetGo.answered = .pending → p) ∧ (LetGo.answered = .answered → q) :=
      ⟨fun h => ⟨fun h => (nomatch h), fun _ => h⟩, fun h => h.2 rfl⟩
    exact (streamed_ended_once_iff inner ops).congr same same

end

/-! ## The eight calls -/

/-- Whenever the caller lets go of a call and whatever it did with the stream: the call
is reported with one ending, if it started, iff it is not dropped while it waits and
at most one operation ends its stream. -/
theorem ended_once_iff {ν : Type} (letGo : LetGo) (ops : List (StreamOp ν)) :
    (∀ (path : String) (inner : CallRequest μ → Except CallError (CallResponse ρ))
      (request : CallRequest μ),
      EndedOnceIff rules chain
        (letGo.trace
          (awaiting rules chain ⟨path, .unary⟩ (.mk request.message)
            request.options)
          (InterceptedTransport.call rules chain path inner request).log)
        (NotAbandoned rules chain letGo path request.options)
        (NotAbandoned rules chain letGo path request.options)) ∧
    (∀ (path : String) (inner : CallRequest μ → Except CallError (Except CallError MetadataView))
      (request : CallRequest μ),
      EndedOnceIff rules chain
        (letGo.trace
          (awaiting rules chain ⟨path, .serverStream⟩ (.mk request.message)
            request.options)
          ((callServerStream rules chain path inner request).life ops))
        (NotAbandoned rules chain letGo path request.options ∧
          EndedAtMostOnce rules chain letGo path (.mk request.message) inner
            request.options ops)
        (NotAbandoned rules chain letGo path request.options ∧
          EndingToldOnce rules chain letGo ⟨path, .serverStream⟩
            (.mk request.message) inner request.options ops)) ∧
    (∀ (path : String) (inner : CallClientStreamRequest σ → Except CallError (CallResponse ρ))
      (request : CallClientStreamRequest σ),
      EndedOnceIff rules chain
        (letGo.trace
          (awaiting rules chain ⟨path, .clientStream⟩ (.mk request.requests)
            request.options)
          (callClientStream rules chain path inner request).log)
        (NotAbandoned rules chain letGo path request.options)
        (NotAbandoned rules chain letGo path request.options)) ∧
    (∀ (path : String)
      (inner : CallClientStreamRequest σ → Except CallError (Except CallError MetadataView))
      (request : CallClientStreamRequest σ),
      EndedOnceIff rules chain
        (letGo.trace
          (awaiting rules chain ⟨path, .bidiStream⟩ (.mk request.requests)
            request.options)
          ((callBidiStream rules chain path inner request).life ops))
        (NotAbandoned rules chain letGo path request.options ∧
          EndedAtMostOnce rules chain letGo path (.mk request.requests) inner
            request.options ops)
        (NotAbandoned rules chain letGo path request.options ∧
          EndingToldOnce rules chain letGo ⟨path, .bidiStream⟩
            (.mk request.requests) inner request.options ops)) ∧
    (∀ (inner : CallRawRequest → Except CallError (CallResponse ρ))
      (request : CallRawRequest),
      EndedOnceIff rules chain
        (letGo.trace
          (awaiting rules chain ⟨request.path, .unary⟩ (.mk request.path request.message)
            request.options)
          (callRaw rules chain inner request).log)
        (NotAbandoned rules chain letGo request.path request.options)
        (NotAbandoned rules chain letGo request.path request.options)) ∧
    (∀ (inner : CallRawRequest → Except CallError (Except CallError MetadataView))
      (request : CallRawRequest),
      EndedOnceIff rules chain
        (letGo.trace
          (awaiting rules chain ⟨request.path, .serverStream⟩ (.mk request.path request.message)
            request.options)
          ((callRawServerStream rules chain inner request).life ops))
        (NotAbandoned rules chain letGo request.path request.options ∧
          EndedAtMostOnce rules chain letGo request.path (.mk request.path request.message) inner
            request.options ops)
        (NotAbandoned rules chain letGo request.path request.options ∧
          EndingToldOnce rules chain letGo ⟨request.path, .serverStream⟩
            (.mk request.path request.message) inner request.options ops)) ∧
    (∀ (inner : CallRawClientStreamRequest σ → Except CallError (CallResponse ρ))
      (request : CallRawClientStreamRequest σ),
      EndedOnceIff rules chain
        (letGo.trace
          (awaiting rules chain ⟨request.path, .clientStream⟩ (.mk request.path request.requests)
            request.options)
          (callRawClientStream rules chain inner request).log)
        (NotAbandoned rules chain letGo request.path request.options)
        (NotAbandoned rules chain letGo request.path request.options)) ∧
    (∀ (inner : CallRawClientStreamRequest σ → Except CallError (Except CallError MetadataView))
      (request : CallRawClientStreamRequest σ),
      EndedOnceIff rules chain
        (letGo.trace
          (awaiting rules chain ⟨request.path, .bidiStream⟩ (.mk request.path request.requests)
            request.options)
          ((callRawBidiStream rules chain inner request).life ops))
        (NotAbandoned rules chain letGo request.path request.options ∧
          EndedAtMostOnce rules chain letGo request.path (.mk request.path request.requests) inner
            request.options ops)
        (NotAbandoned rules chain letGo request.path request.options ∧
          EndingToldOnce rules chain letGo ⟨request.path, .bidiStream⟩
            (.mk request.path request.requests) inner request.options ops)) :=
  ⟨fun _ inner _ => reply_ended_once_iff inner letGo,
    fun _ inner _ => stream_ended_once_iff inner ops letGo,
    fun _ inner _ => reply_ended_once_iff inner letGo,
    fun _ inner _ => stream_ended_once_iff inner ops letGo,
    fun inner _ => reply_ended_once_iff inner letGo,
    fun inner _ => stream_ended_once_iff inner ops letGo,
    fun inner _ => reply_ended_once_iff inner letGo,
    fun inner _ => stream_ended_once_iff inner ops letGo⟩

end InterceptedTransport

/-- A unary call that one interceptor watches and the caller drops while it waits, as
`race` does when the signal fires: the interceptor has been told that it started, and
is told nothing more. -/
theorem started_and_forgotten :
    let chain := GrpcEgressInterceptorChain.push [] watcher
    let request : CallRawRequest := ⟨"/test.Peer/Echo", [10, 2], ⟨none, .empty⟩⟩
    let trace := LetGo.pending.trace
      (InterceptedTransport.awaiting lenient chain ⟨request.path, .unary⟩
        (CallRawRequest.mk request.path request.message) request.options)
      (InterceptedTransport.callRaw lenient chain
        (fun _ => .ok ⟨(), Metadata.empty.view, Metadata.empty.view⟩) request).log
    ¬ EndedOnce (reports trace) ∧ ¬ EndedOnce (toldTo lenient chain 0 trace) := by
  decide

end GrpcEgress
