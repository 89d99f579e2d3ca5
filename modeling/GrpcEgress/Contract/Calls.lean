import GrpcEgress.Contract.Values

/-!
# The eight calls of a client

`Transport` and `RawTransport` as one type of calls: two surfaces, each with a call
of every kind. A typed call is made of a method, which gives its path, and a request;
a raw call has its path in the request. A decorator has one function for each of the
eight, and most of them repeat one text.

`Client` is what a decorator wraps: a call is made in the state of everything below
and ends with a result. The result of a call with a stream of responses is that of
the open; what is read from the stream afterwards is not part of it.
-/

namespace GrpcEgress

/-- A call of a client. The messages of all methods are of type `μ`, the streams of
typed messages of type `σ` and those of raw ones of type `τ`. -/
inductive EgressCall (μ σ τ : Type) where
  | call (path : String) (request : CallRequest μ)
  | callServerStream (path : String) (request : CallRequest μ)
  | callClientStream (path : String) (request : CallClientStreamRequest σ)
  | callBidiStream (path : String) (request : CallClientStreamRequest σ)
  | callRaw (request : CallRawRequest)
  | callRawServerStream (request : CallRawRequest)
  | callRawClientStream (request : CallRawClientStreamRequest τ)
  | callRawBidiStream (request : CallRawClientStreamRequest τ)
deriving DecidableEq

/-- A client: a call in the state below it. -/
abbrev Client (S μ σ τ ρ : Type) := EgressCall μ σ τ → S → S × Except CallError ρ

namespace EgressCall

variable {μ σ τ : Type}

/-- The path of the method, or of the raw request. -/
def path : EgressCall μ σ τ → String
  | .call path _ | .callServerStream path _ | .callClientStream path _
  | .callBidiStream path _ => path
  | .callRaw request | .callRawServerStream request => request.path
  | .callRawClientStream request | .callRawBidiStream request => request.path

def kind : EgressCall μ σ τ → CallKind
  | .call _ _ | .callRaw _ => .unary
  | .callServerStream _ _ | .callRawServerStream _ => .serverStream
  | .callClientStream _ _ | .callRawClientStream _ => .clientStream
  | .callBidiStream _ _ | .callRawBidiStream _ => .bidiStream

/-- The response of the call is a stream. -/
def opensStream (call : EgressCall μ σ τ) : Bool :=
  match call.kind with
  | .serverStream | .bidiStream => true
  | .unary | .clientStream => false

def options : EgressCall μ σ τ → CallOptions
  | .call _ request | .callServerStream _ request => request.options
  | .callClientStream _ request | .callBidiStream _ request => request.options
  | .callRaw request | .callRawServerStream request => request.options
  | .callRawClientStream request | .callRawBidiStream request => request.options

/-- The call with other options and nothing else changed. -/
def withOptions (options : CallOptions) : EgressCall μ σ τ → EgressCall μ σ τ
  | .call path request => .call path { request with options := options }
  | .callServerStream path request => .callServerStream path { request with options := options }
  | .callClientStream path request => .callClientStream path { request with options := options }
  | .callBidiStream path request => .callBidiStream path { request with options := options }
  | .callRaw request => .callRaw { request with options := options }
  | .callRawServerStream request => .callRawServerStream { request with options := options }
  | .callRawClientStream request => .callRawClientStream { request with options := options }
  | .callRawBidiStream request => .callRawBidiStream { request with options := options }

@[simp]
theorem options_withOptions (call : EgressCall μ σ τ) (options : CallOptions) :
    (call.withOptions options).options = options := by
  cases call <;> rfl

@[simp]
theorem path_withOptions (call : EgressCall μ σ τ) (options : CallOptions) :
    (call.withOptions options).path = call.path := by
  cases call <;> rfl

@[simp]
theorem kind_withOptions (call : EgressCall μ σ τ) (options : CallOptions) :
    (call.withOptions options).kind = call.kind := by
  cases call <;> rfl

/-- A call with its own options is the same call. -/
@[simp]
theorem withOptions_self (call : EgressCall μ σ τ) : call.withOptions call.options = call := by
  cases call <;> rfl

end EgressCall

end GrpcEgress
