import GrpcEgress.Contract.Calls
import GrpcEgress.Lib.Polling

/-!
# A view of a client that a signal cancels

`CancellableTransport` and `CancellableResponseStream`. A client is what a poll of each
of its futures does: the calls, by a number that the caller gives them, and the reads of
the stream that a call opened, by the number of that call. The client that is wrapped is
arbitrary: its futures and streams live in its state `S`.

The signal is a level: once it has fired, `wait_cancelled` is ready at every poll.
`polls` is a ghost: how often any future of the wrapped client was polled.
-/

namespace GrpcEgress

open Polling

/-- A client, one poll at a time. Each method but `getHeaders` returns a future, and
`drop` drops the future of a call, or of a read of its stream, before it is ready. -/
structure PolledClient (S μ σ τ ρ M T H : Type) where
  call : Nat → EgressCall μ σ τ → Poll S (Except CallError ρ)
  readMessage : Nat → Poll S (Except CallError (Option M))
  readTrailers : Nat → Poll S (Except CallError T)
  getHeaders : Nat → S → Except CallError H
  drop : Nat → S → S

/-- A `CancellableTransport` with the streams it opened: whether the signal has fired, the
wrapped client, and the path that each `CancellableResponseStream` holds. -/
structure CancellableView (S : Type) where
  fired : Bool
  inner : S
  polls : Nat
  path : Nat → String

namespace CancellableTransport

/-- `cancelled`, of the view and of a stream. -/
def cancelled (path : String) : CallError :=
  .transport path .cancelled "the caller cancelled the call"

section

variable {S μ σ τ ρ M T H α : Type} (inner : PolledClient S μ σ τ ρ M T H)

/-- A poll of the wrapped client. -/
def pollInner (poll : Poll S α) : Poll (CancellableView S) α := fun v =>
  let ran := poll v.inner
  ({ v with inner := ran.1, polls := v.polls + 1 }, ran.2)

/-- A future of the wrapped client is dropped. -/
def dropInner (k : Nat) (v : CancellableView S) : CancellableView S :=
  { v with inner := inner.drop k v.inner }

/-- `select!` of the signal, with its failure, and of a future of the wrapped client. -/
def unlessCancelled (k : Nat) (path : CancellableView S → String)
    (poll : Poll S (Except CallError α)) : Poll (CancellableView S) (Except CallError α) :=
  select (level CancellableView.fired fun v => .error (cancelled (path v))) (dropInner inner k)
    (pollInner poll)

/-- `race`. -/
def race (k : Nat) (path : String) (call : Poll S (Except CallError α)) :
    Poll (CancellableView S) (Except CallError α) :=
  unlessCancelled inner k (fun _ => path) call

/-- The calls that open a stream: the stream keeps the path. -/
def raceStream (k : Nat) (path : String) (call : Poll S (Except CallError α)) :
    Poll (CancellableView S) (Except CallError α) := fun v =>
  match race inner k path call v with
  | (v, some (.ok stream)) =>
    ({ v with path := fun i => if i = k then path else v.path i }, some (.ok stream))
  | (v, ended) => (v, ended)

/-! ## The eight calls -/

/-- `call` of the method at `path`. -/
def call (k : Nat) (path : String) (request : CallRequest μ) :
    Poll (CancellableView S) (Except CallError ρ) :=
  race inner k path (inner.call k (.call path request))

/-- `call_server_stream`. -/
def callServerStream (k : Nat) (path : String) (request : CallRequest μ) :
    Poll (CancellableView S) (Except CallError ρ) :=
  raceStream inner k path (inner.call k (.callServerStream path request))

/-- `call_client_stream`. -/
def callClientStream (k : Nat) (path : String) (request : CallClientStreamRequest σ) :
    Poll (CancellableView S) (Except CallError ρ) :=
  race inner k path (inner.call k (.callClientStream path request))

/-- `call_bidi_stream`. -/
def callBidiStream (k : Nat) (path : String) (request : CallClientStreamRequest σ) :
    Poll (CancellableView S) (Except CallError ρ) :=
  raceStream inner k path (inner.call k (.callBidiStream path request))

/-- `call_raw`. -/
def callRaw (k : Nat) (request : CallRawRequest) : Poll (CancellableView S) (Except CallError ρ) :=
  let ⟨path, message, options⟩ := request
  race inner k path (inner.call k (.callRaw ⟨path, message, options⟩))

/-- `call_raw_server_stream`. -/
def callRawServerStream (k : Nat) (request : CallRawRequest) :
    Poll (CancellableView S) (Except CallError ρ) :=
  let ⟨path, message, options⟩ := request
  raceStream inner k path (inner.call k (.callRawServerStream ⟨path, message, options⟩))

/-- `call_raw_client_stream`. -/
def callRawClientStream (k : Nat) (request : CallRawClientStreamRequest τ) :
    Poll (CancellableView S) (Except CallError ρ) :=
  let ⟨path, requests, options⟩ := request
  race inner k path (inner.call k (.callRawClientStream ⟨path, requests, options⟩))

/-- `call_raw_bidi_stream`. -/
def callRawBidiStream (k : Nat) (request : CallRawClientStreamRequest τ) :
    Poll (CancellableView S) (Except CallError ρ) :=
  let ⟨path, requests, options⟩ := request
  raceStream inner k path (inner.call k (.callRawBidiStream ⟨path, requests, options⟩))

/-! ## The stream of a call -/

/-- `CancellableResponseStream::read_message`. -/
def readMessage (k : Nat) : Poll (CancellableView S) (Except CallError (Option M)) :=
  unlessCancelled inner k (fun v => v.path k) (inner.readMessage k)

/-- `CancellableResponseStream::read_trailers`. -/
def readTrailers (k : Nat) : Poll (CancellableView S) (Except CallError T) :=
  unlessCancelled inner k (fun v => v.path k) (inner.readTrailers k)

/-- `CancellableResponseStream::get_headers` asks the stream it wraps. -/
def getHeaders (k : Nat) (v : CancellableView S) : Except CallError H :=
  inner.getHeaders k v.inner

/-- The view as a client. -/
def client : PolledClient (CancellableView S) μ σ τ ρ M T H where
  call k
    | .call path request => call inner k path request
    | .callServerStream path request => callServerStream inner k path request
    | .callClientStream path request => callClientStream inner k path request
    | .callBidiStream path request => callBidiStream inner k path request
    | .callRaw request => callRaw inner k request
    | .callRawServerStream request => callRawServerStream inner k request
    | .callRawClientStream request => callRawClientStream inner k request
    | .callRawBidiStream request => callRawBidiStream inner k request
  readMessage := readMessage inner
  readTrailers := readTrailers inner
  getHeaders := getHeaders inner
  drop := dropInner inner

/-! ## What a poll comes to -/

variable {inner}

/-- Once the signal has fired a poll ends the future and does not poll the wrapped one. -/
theorem unlessCancelled_fired {v : CancellableView S} (fired : v.fired = true) (k : Nat)
    (path : CancellableView S → String) (poll : Poll S (Except CallError α)) :
    unlessCancelled inner k path poll v =
      (dropInner inner k v, some (.error (cancelled (path v)))) := by
  rw [unlessCancelled, select_level, if_pos fired]

/-- Until then a poll is one of the wrapped future. -/
theorem unlessCancelled_quiet {v : CancellableView S} (quiet : v.fired = false) (k : Nat)
    (path : CancellableView S → String) (poll : Poll S (Except CallError α)) :
    unlessCancelled inner k path poll v = pollInner poll v := by
  rw [unlessCancelled, select_level, if_neg (Bool.eq_false_iff.mp quiet)]

/-- The paths of the streams after a poll of call `k`. -/
def pathsAfter (k : Nat) (c : EgressCall μ σ τ) (ended : Option (Except CallError ρ))
    (path : Nat → String) : Nat → String :=
  match ended with
  | some (.ok _) => if c.opensStream then fun i => if i = k then c.path else path i else path
  | _ => path

theorem raceStream_fired {v : CancellableView S} (fired : v.fired = true) (k : Nat) (path : String)
    (poll : Poll S (Except CallError α)) :
    raceStream inner k path poll v = (dropInner inner k v, some (.error (cancelled path))) := by
  simp only [raceStream, race, unlessCancelled_fired fired]

theorem client_call_fired {v : CancellableView S} (fired : v.fired = true) (k : Nat)
    (c : EgressCall μ σ τ) :
    (client inner).call k c v = (dropInner inner k v, some (.error (cancelled c.path))) := by
  cases c with
  | call | callClientStream | callRaw | callRawClientStream =>
    exact unlessCancelled_fired fired k _ _
  | callServerStream | callBidiStream | callRawServerStream | callRawBidiStream =>
    exact raceStream_fired fired k _ _

theorem race_quiet {v : CancellableView S} (quiet : v.fired = false) (k : Nat) (path : String)
    (poll : Poll S (Except CallError α)) :
    race inner k path poll v = pollInner poll v := unlessCancelled_quiet quiet k _ poll

theorem client_call_quiet {v : CancellableView S} (quiet : v.fired = false) (k : Nat)
    (c : EgressCall μ σ τ) :
    let ran := inner.call k c v.inner
    (client inner).call k c v =
      (⟨false, ran.1, v.polls + 1, pathsAfter k c ran.2 v.path⟩, ran.2) := by
  have opened : raceStream inner k c.path (inner.call k c) v =
      match inner.call k c v.inner with
      | (s, some (.ok stream)) =>
        (⟨false, s, v.polls + 1, fun i => if i = k then c.path else v.path i⟩, some (.ok stream))
      | (s, ended) => (⟨false, s, v.polls + 1, v.path⟩, ended) := by
    simp only [raceStream, race_quiet quiet, pollInner, ← quiet]
    rcases inner.call k c v.inner with ⟨s, _ | _ | stream⟩
    · rfl
    · rfl
    · rfl
  have raced : race inner k c.path (inner.call k c) v =
      (⟨false, (inner.call k c v.inner).1, v.polls + 1, v.path⟩, (inner.call k c v.inner).2) := by
    simp only [race_quiet quiet, pollInner, ← quiet]
  dsimp only
  cases c with
  | call | callClientStream | callRaw | callRawClientStream =>
    refine Eq.trans raced ?_
    rcases inner.call k _ v.inner with ⟨s, _ | _ | response⟩
    · rfl
    · rfl
    · rfl
  | callServerStream | callBidiStream | callRawServerStream | callRawBidiStream =>
    refine Eq.trans opened ?_
    rcases inner.call k _ v.inner with ⟨s, _ | _ | stream⟩
    · rfl
    · rfl
    · rfl

end

end CancellableTransport

end GrpcEgress
