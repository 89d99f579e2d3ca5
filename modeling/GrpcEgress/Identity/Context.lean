import GrpcEgress.Contract.Calls
import GrpcEgress.Contract.Metadata

/-!
# Calls that carry an identity

`ContextTransport`: a view of a client whose calls carry the headers derived from a
caller's identity. The headers are derived when the view is made. Each of the eight calls
adds them to its own metadata and passes the rest of the request on as it is; a call
whose headers cannot be added does not reach the wrapped client.

1. `ofIdentity_entries`: the headers of an identity, in order;
2. `make_eq`: one call of the view, of any shape;
3. `identity_view_adds_identity`: what is sent, and when nothing is.
-/

namespace GrpcEgress

open MetadataRules

/-- `CallerIdentity`: what its four methods return. -/
structure CallerIdentity where
  traceId : Option String
  tenantId : Option String
  bearerToken : Option String
  headers : List (String × String)
deriving DecidableEq

/-- `ContextHeaders`. -/
structure ContextHeaders where
  entries : List (String × String)
deriving DecidableEq

namespace ContextHeaders

/-- A header that the identity may not have is pushed after the others. -/
def push (headers : List (String × String)) (name : String) :
    Option String → List (String × String)
  | some value => headers ++ [(name, value)]
  | none => headers

/-- `ContextHeaders::from`. -/
def ofIdentity (identity : CallerIdentity) : ContextHeaders :=
  let headers := push [] "x-trace-id" identity.traceId
  let headers := push headers "x-tenant-id" identity.tenantId
  let headers := push headers "authorization" (identity.bearerToken.map ("Bearer " ++ ·))
  ⟨headers ++ identity.headers⟩

theorem push_eq (headers : List (String × String)) (name : String) (value : Option String) :
    push headers name value = headers ++ (value.map fun value => (name, value)).toList := by
  cases value with
  | none => exact (List.append_nil headers).symm
  | some value => rfl

end ContextHeaders

/-- What a call is to carry of an identity: the trace id, the tenant id and the bearer
token that it has, then its further headers. -/
def CallerIdentity.entries (identity : CallerIdentity) : List (String × String) :=
  (identity.traceId.map fun id => ("x-trace-id", id)).toList ++
  (identity.tenantId.map fun id => ("x-tenant-id", id)).toList ++
  (identity.bearerToken.map fun token => ("authorization", "Bearer " ++ token)).toList ++
  identity.headers

theorem ContextHeaders.ofIdentity_entries (identity : CallerIdentity) :
    (ofIdentity identity).entries = identity.entries := by
  simp only [ofIdentity, push_eq, List.nil_append, Option.map_map, Function.comp_def,
    CallerIdentity.entries]

/-- `ContextTransport`, but for the client it wraps. -/
structure ContextTransport where
  headers : List (String × String)
deriving DecidableEq

namespace ContextTransport

/-- `From<BuildGrpcCallerIdentityRequest>`. -/
def ofIdentity (identity : CallerIdentity) : ContextTransport :=
  ⟨(ContextHeaders.ofIdentity identity).entries⟩

/-- The failure of a header that is not valid metadata. -/
def invalidHeader (path : String) (e : String) : CallError :=
  .transport path .invalidArgument ("the identity holds a header that is not valid: " ++ e)

variable {S μ σ τ ρ : Type} (rules : MetadataRules) (view : ContextTransport)
  (inner : Client S μ σ τ ρ)

/-- `add_headers`. -/
def addHeaders (path : String) (options : CallOptions) : Except CallError CallOptions :=
  if view.headers.isEmpty then .ok options
  else
    match rules.extend options.metadata view.headers with
    | .error e => .error (invalidHeader path e)
    | .ok metadata => .ok ⟨options.timeout, metadata⟩

/-- The text of the eight calls: `send` builds the call of the wrapped client. -/
def withHeaders (path : String) (options : CallOptions) (send : CallOptions → EgressCall μ σ τ)
    (s : S) : S × Except CallError ρ :=
  match addHeaders rules view path options with
  | .error e => (s, .error e)
  | .ok options => inner (send options) s

/-- `call` of the method at `path`. -/
def call (path : String) (request : CallRequest μ) : S → S × Except CallError ρ :=
  withHeaders rules view inner path request.options fun options =>
    .call path ⟨request.message, options⟩

/-- `call_server_stream`. -/
def callServerStream (path : String) (request : CallRequest μ) : S → S × Except CallError ρ :=
  withHeaders rules view inner path request.options fun options =>
    .callServerStream path ⟨request.message, options⟩

/-- `call_client_stream`. -/
def callClientStream (path : String) (request : CallClientStreamRequest σ) :
    S → S × Except CallError ρ :=
  withHeaders rules view inner path request.options fun options =>
    .callClientStream path ⟨request.requests, options⟩

/-- `call_bidi_stream`. -/
def callBidiStream (path : String) (request : CallClientStreamRequest σ) :
    S → S × Except CallError ρ :=
  withHeaders rules view inner path request.options fun options =>
    .callBidiStream path ⟨request.requests, options⟩

/-- `call_raw`. -/
def callRaw (request : CallRawRequest) : S → S × Except CallError ρ :=
  withHeaders rules view inner request.path request.options fun options =>
    .callRaw ⟨request.path, request.message, options⟩

/-- `call_raw_server_stream`. -/
def callRawServerStream (request : CallRawRequest) : S → S × Except CallError ρ :=
  withHeaders rules view inner request.path request.options fun options =>
    .callRawServerStream ⟨request.path, request.message, options⟩

/-- `call_raw_client_stream`. -/
def callRawClientStream (request : CallRawClientStreamRequest τ) : S → S × Except CallError ρ :=
  withHeaders rules view inner request.path request.options fun options =>
    .callRawClientStream ⟨request.path, request.requests, options⟩

/-- `call_raw_bidi_stream`. -/
def callRawBidiStream (request : CallRawClientStreamRequest τ) : S → S × Except CallError ρ :=
  withHeaders rules view inner request.path request.options fun options =>
    .callRawBidiStream ⟨request.path, request.requests, options⟩

/-- A call of any of the eight shapes. -/
def make : Client S μ σ τ ρ
  | .call path request => call rules view inner path request
  | .callServerStream path request => callServerStream rules view inner path request
  | .callClientStream path request => callClientStream rules view inner path request
  | .callBidiStream path request => callBidiStream rules view inner path request
  | .callRaw request => callRaw rules view inner request
  | .callRawServerStream request => callRawServerStream rules view inner request
  | .callRawClientStream request => callRawClientStream rules view inner request
  | .callRawBidiStream request => callRawBidiStream rules view inner request

/-- Every shape adds the headers to its own options and changes nothing else. -/
theorem make_eq_withHeaders (c : EgressCall μ σ τ) (s : S) :
    make rules view inner c s =
      withHeaders rules view inner c.path c.options (fun options => c.withOptions options) s := by
  cases c <;> rfl

/-- The headers on built metadata, with no header or with some. -/
theorem addHeaders_eq {options : CallOptions} (built : rules.Built options.metadata)
    (path : String) :
    addHeaders rules view path options =
      match rules.refused options.metadata view.headers with
      | some e => .error (invalidHeader path e)
      | none => .ok ⟨options.timeout, { options.metadata with
          text := options.metadata.text ++ missing options.metadata view.headers }⟩ := by
  obtain ⟨headers⟩ := view
  cases headers with
  | nil =>
    show Except.ok options = .ok ⟨options.timeout, { options.metadata with
      text := options.metadata.text ++ [] }⟩
    rw [List.append_nil]
  | cons first rest =>
    simp only [addHeaders, List.isEmpty_cons, Bool.false_eq_true, if_false, extend_eq built]
    cases rules.refused options.metadata (first :: rest) with
    | some e => rfl
    | none => rfl

/-- A call of the view on built metadata: refused with nothing sent, or sent with the
missing headers after the caller's own. -/
theorem make_eq {c : EgressCall μ σ τ} (built : rules.Built c.options.metadata) (s : S) :
    make rules view inner c s =
      match rules.refused c.options.metadata view.headers with
      | some e => (s, .error (invalidHeader c.path e))
      | none => inner (c.withOptions ⟨c.options.timeout, { c.options.metadata with
          text := c.options.metadata.text ++ missing c.options.metadata view.headers }⟩) s := by
  rw [make_eq_withHeaders, withHeaders, addHeaders_eq rules view built]
  cases rules.refused c.options.metadata view.headers with
  | some e => rfl
  | none => rfl

end ContextTransport

open ContextTransport

/-- A call through the view of an identity, of any shape, on metadata that was built. If
every key of the identity can be looked up and every header to be added is valid, the
wrapped client is given the same call with the caller's text entries, then the identity's
entries whose keys the caller does not hold, the caller's binary entries and timeout. Else
it is given nothing, and the call fails with `InvalidArgument`, for one of these entries. -/
theorem identity_view_adds_identity {S μ σ τ ρ : Type} (rules : MetadataRules)
    (identity : CallerIdentity) (inner : Client S μ σ τ ρ) (c : EgressCall μ σ τ) (s : S)
    (built : rules.Built c.options.metadata) :
    let own := c.options.metadata
    let added := identity.entries.filter fun entry => !own.holds entry.1
    ((∀ entry ∈ identity.entries, rules.keyError entry.1 = none) →
      (∀ entry ∈ added, rules.textError entry.1 entry.2 = none) →
      make rules (.ofIdentity identity) inner c s =
        inner (c.withOptions ⟨c.options.timeout, ⟨own.text ++ added, own.binary⟩⟩) s) ∧
    ((∃ entry ∈ identity.entries, rules.keyError entry.1 ≠ none ∨
        (own.holds entry.1 = false ∧ rules.textError entry.1 entry.2 ≠ none)) →
      ∃ entry ∈ identity.entries, ∃ e,
        (rules.keyError entry.1 = some e ∨
          (own.holds entry.1 = false ∧ rules.textError entry.1 entry.2 = some e)) ∧
        make rules (.ofIdentity identity) inner c s =
          (s, .error (.transport c.path .invalidArgument
            ("the identity holds a header that is not valid: " ++ e)))) := by
  intro own added
  have headers : (ContextTransport.ofIdentity identity).headers = identity.entries :=
    ContextHeaders.ofIdentity_entries identity
  have made := make_eq rules (.ofIdentity identity) inner built s
  rw [headers] at made
  constructor
  · intro known valid
    have accepted : rules.refused own identity.entries = none := by
      refine Option.eq_none_iff_forall_ne_some.mpr fun e refused => ?_
      obtain ⟨entry, member, key | ⟨absent, text⟩⟩ := refused_isSome_iff.mp ⟨e, refused⟩
      · exact key (known entry member)
      · exact text (valid entry (List.mem_filter.mpr ⟨member, by rw [absent]; rfl⟩))
    rw [made, accepted]
    rfl
  · intro bad
    obtain ⟨e, refused⟩ := refused_isSome_iff.mpr bad
    obtain ⟨entry, member, refusal⟩ := refusal_of_refused refused
    refine ⟨entry, member, e, refusal, ?_⟩
    rw [made, refused]
    rfl

namespace Tenant

/-- Keys with a blank are refused, wherever they are given. -/
def rules : MetadataRules where
  textError key _ := if key = "bad key" then some "invalid key" else none
  binaryError _ _ := none
  keyError key := if key = "bad key" then some "invalid key" else none

/-- A caller with a trace id and a tenant. -/
def identity : CallerIdentity := ⟨some "7", some "green", none, []⟩

/-- The same caller, with a header that is not valid. -/
def invalid : CallerIdentity := ⟨some "7", some "green", none, [("bad key", "1")]⟩

/-- A call that names a tenant of its own, twice. -/
def call : EgressCall Unit Unit Unit :=
  .callRaw ⟨"/test.Peer/Echo", [5],
    ⟨some (.fromSecs 3), ⟨[("x-tenant-id", "blue"), ("x-tenant-id", "red")], [("seal-bin", [1])]⟩⟩⟩

/-- A wrapped client that keeps the calls it is given. -/
def inner : Client (List (EgressCall Unit Unit Unit)) Unit Unit Unit Unit :=
  fun call given => (given ++ [call], .ok ())

end Tenant

open Tenant in
/-- `identity_view_adds_identity` for that call: it keeps its tenants and gets the trace
id, and with the header that is not valid it fails. -/
theorem identity_view_adds_identity_tenant :
    make rules (.ofIdentity identity) inner call [] =
      ([.callRaw ⟨"/test.Peer/Echo", [5], ⟨some (.fromSecs 3), ⟨[("x-tenant-id", "blue"),
        ("x-tenant-id", "red"), ("x-trace-id", "7")], [("seal-bin", [1])]⟩⟩⟩], .ok ()) ∧
    make rules (.ofIdentity invalid) inner call [] =
      ([], .error (.transport "/test.Peer/Echo" .invalidArgument
        "the identity holds a header that is not valid: invalid key")) := by
  constructor
  · exact (identity_view_adds_identity rules identity inner call [] ⟨by decide, by decide⟩).1
      (by decide) (by decide)
  · have bad : ∃ entry ∈ invalid.entries, rules.keyError entry.1 ≠ none ∨
        (call.options.metadata.holds entry.1 = false ∧ rules.textError entry.1 entry.2 ≠ none) :=
      ⟨("bad key", "1"), by decide, .inl (by decide)⟩
    obtain ⟨entry, member, e, refusal, failed⟩ :=
      (identity_view_adds_identity rules invalid inner call [] ⟨by decide, by decide⟩).2 bad
    have only : ∀ key, rules.keyError key = some e → e = "invalid key" := by
      intro key is
      simp only [rules] at is
      split at is
      · exact (Option.some.inj is).symm
      · cases is
    have text : e = "invalid key" := refusal.elim (only entry.1) fun both => only entry.1 both.2
    rw [failed, text]
    rfl

end GrpcEgress
