import GrpcEgress.Cancellation.View
import GrpcEgress.Lib.Runs

/-!
# Callers of a cancellable view

A caller polls the futures of a client in any order: those of its calls, and of the
reads of the streams that the calls opened. `step` is one poll, of any client; the same
caller of a view may find the signal fired at any moment (`viewStep`).

1. `viewStep_project`: until the signal fires the view is the wrapped client, poll by
   poll;
2. `run_cancelled`: afterwards every poll of a call or a read fails, and no future of
   the wrapped client is polled;
3. `view_cancels_or_forwards`: both, for all runs.
-/

namespace GrpcEgress

open CancellableTransport

/-- What a caller does. Call `k` is the call of that number. -/
inductive CallerAct where
  | call (k : Nat)
  | readMessage (k : Nat)
  | readTrailers (k : Nat)
  | getHeaders (k : Nat)
  | drop (k : Nat)
deriving DecidableEq

/-- What a caller is answered; a future that is pending answers nothing yet. -/
inductive CallerAnswer (ρ M T H : Type) where
  | call (k : Nat) (ended : Option (Except CallError ρ))
  | message (k : Nat) (ended : Option (Except CallError (Option M)))
  | trailers (k : Nat) (ended : Option (Except CallError T))
  | headers (k : Nat) (answer : Except CallError H)

/-- A client with its caller: the streams that the caller was given, and all that it was
answered, oldest first. -/
structure Session (S ρ M T H : Type) where
  state : S
  opened : Nat → Bool
  answers : List (CallerAnswer ρ M T H)

/-- What the caller of a view does, or the signal. -/
inductive ViewAct where
  | fire
  | caller (act : CallerAct)
deriving DecidableEq

namespace Session

variable {S μ σ τ ρ M T H : Type}

/-- A client that has not been used. -/
def start (state : S) : Session S ρ M T H := ⟨state, fun _ => false, []⟩

/-- The caller holds a stream once call `k`, which opens one, has succeeded. -/
def openedAfter (k : Nat) (c : EgressCall μ σ τ) (ended : Option (Except CallError ρ))
    (opened : Nat → Bool) : Nat → Bool :=
  match ended with
  | some (.ok _) => if c.opensStream then fun i => if i = k then true else opened i else opened
  | _ => opened

/-- A stream that the caller was not given cannot be used. -/
def onStream (s : Session S ρ M T H) (k : Nat) (next : Session S ρ M T H) :
    Option (Session S ρ M T H) :=
  if s.opened k then some next else none

/-- One act of a caller. -/
def step (client : PolledClient S μ σ τ ρ M T H) (calls : Nat → EgressCall μ σ τ)
    (s : Session S ρ M T H) : CallerAct → Option (Session S ρ M T H)
  | .call k =>
    let ran := client.call k (calls k) s.state
    some ⟨ran.1, openedAfter k (calls k) ran.2 s.opened, s.answers ++ [.call k ran.2]⟩
  | .readMessage k =>
    let ran := client.readMessage k s.state
    s.onStream k ⟨ran.1, s.opened, s.answers ++ [.message k ran.2]⟩
  | .readTrailers k =>
    let ran := client.readTrailers k s.state
    s.onStream k ⟨ran.1, s.opened, s.answers ++ [.trailers k ran.2]⟩
  | .getHeaders k =>
    s.onStream k { s with answers := s.answers ++ [.headers k (client.getHeaders k s.state)] }
  | .drop k => some { s with state := client.drop k s.state }

/-- One act around a view: the signal fires, or the caller does something. -/
def viewStep (inner : PolledClient S μ σ τ ρ M T H) (calls : Nat → EgressCall μ σ τ)
    (s : Session (CancellableView S) ρ M T H) :
    ViewAct → Option (Session (CancellableView S) ρ M T H)
  | .fire => some { s with state := { s.state with fired := true } }
  | .caller act => step (CancellableTransport.client inner) calls s act

/-- A view of a client that has not been used. -/
def startView (state : S) : Session (CancellableView S) ρ M T H :=
  start ⟨false, state, 0, fun _ => ""⟩

/-- The wrapped client, with what the caller of the view was given and answered. -/
def unwrapped (s : Session (CancellableView S) ρ M T H) : Session S ρ M T H :=
  ⟨s.state.inner, s.opened, s.answers⟩

/-- Each stream that the caller was given holds the path of its call. -/
def PathsHeld (calls : Nat → EgressCall μ σ τ) (s : Session (CancellableView S) ρ M T H) : Prop :=
  ∀ k, s.opened k = true → s.state.path k = (calls k).path

/-- The answer is the cancellation of its call. What headers say is not affected. -/
def Cancelled (calls : Nat → EgressCall μ σ τ) : CallerAnswer ρ M T H → Prop
  | .call k ended => ended =
      some (.error (.transport (calls k).path .cancelled "the caller cancelled the call"))
  | .message k ended => ended =
      some (.error (.transport (calls k).path .cancelled "the caller cancelled the call"))
  | .trailers k ended => ended =
      some (.error (.transport (calls k).path .cancelled "the caller cancelled the call"))
  | .headers _ _ => True

variable {inner : PolledClient S μ σ τ ρ M T H} {calls : Nat → EgressCall μ σ τ}

theorem onStream_eq_some {s next s' : Session S ρ M T H} {k : Nat}
    (used : s.onStream k next = some s') : s.opened k = true ∧ s' = next := by
  unfold onStream at used
  split at used
  · next held => exact ⟨held, (Option.some.inj used).symm⟩
  · cases used

/-- What can be done with a stream of a view can be done with the stream it wraps. -/
theorem onStream_unwrapped (s next : Session (CancellableView S) ρ M T H) (k : Nat) :
    (s.onStream k next).map unwrapped = (unwrapped s).onStream k (unwrapped next) := by
  unfold onStream unwrapped
  cases s.opened k with
  | true => rfl
  | false => rfl

/-- Until the signal fires, an act on the view is the same act on the wrapped client. -/
theorem viewStep_project (s : Session (CancellableView S) ρ M T H)
    (quiet : s.state.fired = false) (act : CallerAct) :
    (viewStep inner calls s (.caller act)).map unwrapped = step inner calls (unwrapped s) act := by
  cases act with
  | call k =>
    simp only [viewStep, step, client_call_quiet quiet]
    rfl
  | readMessage k =>
    simp only [viewStep, step, client, readMessage, unlessCancelled_quiet quiet]
    exact onStream_unwrapped s _ k
  | readTrailers k =>
    simp only [viewStep, step, client, readTrailers, unlessCancelled_quiet quiet]
    exact onStream_unwrapped s _ k
  | getHeaders k => exact onStream_unwrapped s _ k
  | drop k => rfl

/-- Nothing that a caller does fires the signal. -/
theorem viewStep_fired {s s' : Session (CancellableView S) ρ M T H} {act : CallerAct}
    (quiet : s.state.fired = false) (stepped : viewStep inner calls s (.caller act) = some s') :
    s'.state.fired = false := by
  cases act with
  | call k =>
    simp only [viewStep, step, client_call_quiet quiet] at stepped
    cases stepped
    rfl
  | readMessage k =>
    simp only [viewStep, step, client, readMessage, unlessCancelled_quiet quiet] at stepped
    obtain ⟨-, rfl⟩ := onStream_eq_some stepped
    exact quiet
  | readTrailers k =>
    simp only [viewStep, step, client, readTrailers, unlessCancelled_quiet quiet] at stepped
    obtain ⟨-, rfl⟩ := onStream_eq_some stepped
    exact quiet
  | getHeaders k =>
    obtain ⟨-, rfl⟩ := onStream_eq_some stepped
    exact quiet
  | drop k =>
    cases stepped
    exact quiet

/-- What an act does once the signal has fired: no future of the wrapped client is polled,
no stream is opened, and every answer is a cancellation. -/
theorem step_fired {s s' : Session (CancellableView S) ρ M T H} {act : CallerAct}
    (fired : s.state.fired = true) (held : s.PathsHeld calls)
    (stepped : step (client inner) calls s act = some s') :
    s'.state.fired = true ∧ s'.state.path = s.state.path ∧ s'.state.polls = s.state.polls ∧
      s'.opened = s.opened ∧
      ∃ new, s'.answers = s.answers ++ new ∧ ∀ answer ∈ new, Cancelled calls answer := by
  have one : ∀ {answer : CallerAnswer ρ M T H}, Cancelled calls answer →
      ∀ other ∈ [answer], Cancelled calls other := by
    intro answer cancelled other member
    rw [List.mem_singleton.mp member]
    exact cancelled
  cases act with
  | call k =>
    simp only [step, client_call_fired fired] at stepped
    cases stepped
    exact ⟨fired, rfl, rfl, rfl, _, rfl, one rfl⟩
  | readMessage k =>
    simp only [step, client, readMessage, unlessCancelled_fired fired] at stepped
    obtain ⟨opened, rfl⟩ := onStream_eq_some stepped
    refine ⟨fired, rfl, rfl, rfl, _, rfl, one ?_⟩
    rw [held k opened]
    exact rfl
  | readTrailers k =>
    simp only [step, client, readTrailers, unlessCancelled_fired fired] at stepped
    obtain ⟨opened, rfl⟩ := onStream_eq_some stepped
    refine ⟨fired, rfl, rfl, rfl, _, rfl, one ?_⟩
    rw [held k opened]
    exact rfl
  | getHeaders k =>
    obtain ⟨-, rfl⟩ := onStream_eq_some stepped
    exact ⟨fired, rfl, rfl, rfl, _, rfl, one trivial⟩
  | drop k =>
    cases stepped
    exact ⟨fired, rfl, rfl, rfl, [], (List.append_nil _).symm, fun _ member => nomatch member⟩

/-- Only a call that has just opened its stream sets a path, and it sets its own. -/
theorem pathsAfter_held {opened : Nat → Bool} {path : Nat → String}
    (held : ∀ i, opened i = true → path i = (calls i).path) (k : Nat)
    (ended : Option (Except CallError ρ)) {i : Nat}
    (holds : openedAfter k (calls k) ended opened i = true) :
    pathsAfter k (calls k) ended path i = (calls i).path := by
  simp only [openedAfter, pathsAfter] at holds ⊢
  rcases ended with _ | _ | _
  · exact held i holds
  · exact held i holds
  · dsimp only at holds ⊢
    split at holds
    · next opens =>
      rw [if_pos opens]
      by_cases own : i = k
      · rw [if_pos own, own]
      · rw [if_neg own]
        dsimp only at holds
        rw [if_neg own] at holds
        exact held i holds
    · next opens =>
      rw [if_neg opens]
      exact held i holds

/-- Streams keep the paths of their calls. -/
theorem pathsHeld_step {s s' : Session (CancellableView S) ρ M T H} {act : ViewAct}
    (held : s.PathsHeld calls) (stepped : viewStep inner calls s act = some s') :
    s'.PathsHeld calls := by
  cases act with
  | fire =>
    cases stepped
    exact held
  | caller act =>
    by_cases fired : s.state.fired = true
    · obtain ⟨-, path, -, opened, -⟩ := step_fired fired held stepped
      intro k holds
      rw [path]
      exact held k (opened ▸ holds)
    · have quiet := Bool.eq_false_iff.mpr fired
      cases act with
      | call k =>
        simp only [viewStep, step, client_call_quiet quiet] at stepped
        cases stepped
        exact fun i holds => pathsAfter_held held k _ holds
      | readMessage k =>
        simp only [viewStep, step, client, readMessage, unlessCancelled_quiet quiet] at stepped
        obtain ⟨-, rfl⟩ := onStream_eq_some stepped
        exact held
      | readTrailers k =>
        simp only [viewStep, step, client, readTrailers, unlessCancelled_quiet quiet] at stepped
        obtain ⟨-, rfl⟩ := onStream_eq_some stepped
        exact held
      | getHeaders k =>
        obtain ⟨-, rfl⟩ := onStream_eq_some stepped
        exact held
      | drop k =>
        cases stepped
        exact held

/-- A signal that has fired stays fired, through a run of any acts, and all that the
callers are answered is cancellations. -/
theorem run_cancelled {acts : List ViewAct} {s s' : Session (CancellableView S) ρ M T H}
    (fired : s.state.fired = true) (held : s.PathsHeld calls)
    (ran : Runs.run (viewStep inner calls) s acts = some s') :
    s'.state.polls = s.state.polls ∧
      ∃ new, s'.answers = s.answers ++ new ∧ ∀ answer ∈ new, Cancelled calls answer := by
  induction acts generalizing s with
  | nil =>
    cases ran
    exact ⟨rfl, [], (List.append_nil _).symm, fun _ member => nomatch member⟩
  | cons act acts ih =>
    obtain ⟨next, stepped, rest⟩ := Runs.run_cons.mp ran
    have heldNext := pathsHeld_step held stepped
    cases act with
    | fire =>
      cases stepped
      exact @ih ⟨{ s.state with fired := true }, s.opened, s.answers⟩ rfl heldNext rest
    | caller act =>
      obtain ⟨firedNext, -, polls, -, first, answers, cancelledFirst⟩ :=
        step_fired fired held stepped
      obtain ⟨pollsRest, more, answersRest, cancelledMore⟩ := ih firedNext heldNext rest
      refine ⟨pollsRest.trans polls, first ++ more, ?_, ?_⟩
      · rw [answersRest, answers, List.append_assoc]
      · exact List.forall_mem_append.mpr ⟨cancelledFirst, cancelledMore⟩

/-- A view whose signal never fires is the wrapped client. -/
theorem run_quiet {s : Session (CancellableView S) ρ M T H} (quiet : s.state.fired = false)
    (acts : List CallerAct) :
    (Runs.run (viewStep inner calls) s (acts.map .caller)).map unwrapped =
      Runs.run (step inner calls) (unwrapped s) acts :=
  Runs.run_project unwrapped ViewAct.caller (fun s => s.state.fired = false)
    (fun _ _ _ quiet stepped => viewStep_fired quiet stepped)
    (fun s act quiet => viewStep_project s quiet act) quiet

end Session

open Session

/-- A view of any client, its callers doing anything in any order. If the signal does not
fire, what they are answered and the wrapped client are as they would be without the view,
and the same acts can happen. Once it has fired, at whatever moment, every poll of a call
or of a read, begun before or after, answers `Cancelled` at the path of its call, and no
future of the wrapped client is polled again. -/
theorem view_cancels_or_forwards {S μ σ τ ρ M T H : Type} (inner : PolledClient S μ σ τ ρ M T H)
    (calls : Nat → EgressCall μ σ τ) (state : S) :
    (∀ acts : List CallerAct,
      (Runs.run (viewStep inner calls) (startView state) (acts.map .caller)).map unwrapped =
        Runs.run (step inner calls) (start state) acts) ∧
    (∀ (before after : List ViewAct) (fired last : Session (CancellableView S) ρ M T H),
      Runs.run (viewStep inner calls) (startView state) (before ++ [.fire]) = some fired →
      Runs.run (viewStep inner calls) fired after = some last →
      last.state.polls = fired.state.polls ∧
        ∃ new, last.answers = fired.answers ++ new ∧ ∀ answer ∈ new, Cancelled calls answer) := by
  refine ⟨fun acts => run_quiet rfl acts, fun before after fired last ran ranAfter => ?_⟩
  have held : fired.PathsHeld calls :=
    Runs.run_invariant (PathsHeld calls) (fun _ _ _ held stepped => pathsHeld_step held stepped)
      (fun _ opened => absurd opened Bool.false_ne_true) ran
  rw [Runs.run_append] at ran
  obtain ⟨quiet, -, now⟩ := Option.bind_eq_some_iff.mp ran
  cases now
  exact run_cancelled rfl held ranAfter

/-! ## A reply that is there when the signal fires -/

namespace ReadyReply

/-- A client whose every future is ready at its first poll; it counts its polls. -/
def inner : PolledClient Nat Unit Unit Unit Unit Unit Unit Unit where
  call _ _ n := (n + 1, some (.ok ()))
  readMessage _ n := (n + 1, some (.ok (some ())))
  readTrailers _ n := (n + 1, some (.ok ()))
  getHeaders _ _ := .ok ()
  drop _ n := n

/-- Server-streaming calls of two methods. -/
def calls (k : Nat) : EgressCall Unit Unit Unit :=
  .callServerStream (if k = 0 then "/test.Peer/Watch" else "/test.Peer/List") ⟨(), ⟨none, .empty⟩⟩

/-- A stream is opened and read once before the signal fires. -/
def before : List ViewAct := [.caller (.call 0), .caller (.readMessage 0)]

/-- Afterwards it is read again, and another call is made. -/
def after : List ViewAct := [.caller (.readMessage 0), .caller (.call 1)]

end ReadyReply

open ReadyReply in
/-- `view_cancels_or_forwards` for these acts: both futures that are polled after the signal
has fired are ready, and neither is polled. -/
theorem view_cancels_or_forwards_ready :
    ∃ fired last, Runs.run (viewStep inner calls) (startView 0) (before ++ [.fire]) = some fired ∧
      Runs.run (viewStep inner calls) fired after = some last ∧
      fired.answers = [.call 0 (some (.ok ())), .message 0 (some (.ok (some ())))] ∧
      last.answers = fired.answers ++
        [.message 0 (some (.error (.transport "/test.Peer/Watch" .cancelled
            "the caller cancelled the call"))),
          .call 1 (some (.error (.transport "/test.Peer/List" .cancelled
            "the caller cancelled the call")))] ∧
      last.state.polls = fired.state.polls ∧
      ∃ new, last.answers = fired.answers ++ new ∧ ∀ answer ∈ new, Cancelled calls answer :=
  ⟨_, _, rfl, rfl, rfl, rfl,
    (view_cancels_or_forwards inner calls 0).2 before after _ _ rfl rfl⟩

end GrpcEgress
