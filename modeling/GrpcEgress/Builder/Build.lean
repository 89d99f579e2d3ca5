import GrpcEgress.Builder.Options
import GrpcEgress.Lib.Panicking

/-!
# Building a client

`build` checks the options, lists the targets, refuses plaintext that is not allowed and a
TLS option that no target would use, resolves the TLS settings, and creates a client for
each target. A slice that is cut inside a character panics, so a run of `build` is a
`Panicking.Ran`.

What other crates and the file system do is `Outside`. A client of the engine is known
by the options that it was created from, and a pool by its configuration.

`isPlaintextEndpoint` looks at seven bytes. `PlaintextScheme` is what it is there for, and
`CutsCharacter` when the seven bytes cannot be taken:

1. `isPlaintextEndpoint_eq_panicked`, `_eq_true` and `_eq_false`, and a lemma for each stage;
2. `build_eq_returned`: when a client is returned, and which;
3. `build_eq_panicked`: when there is a panic, and in which of the three places.
-/

namespace GrpcEgress

open Panicking

/-! ## What is not in the workspace -/

/-- `LoadbalancerConfig`: each backend is a URL and a weight. -/
structure LoadbalancerConfig where
  strategy : BalancingStrategy
  backends : List (String × UInt32)
deriving DecidableEq

/-- The options that the builder of the engine collects. -/
structure TonicOptions where
  endpoint : String
  timeout : Duration
  maxDecodingMessageSize : Option UInt64
  maxEncodingMessageSize : Option UInt64
  tls : Option TlsSettings
  sendCompression : Option Compression
  acceptCompression : List Compression
  http2KeepAliveInterval : Option Duration
  keepAliveTimeout : Option Duration
  keepAliveWhileIdle : Option Bool
deriving DecidableEq

/-- The URI parser, the file system, the engine and the pool. -/
structure Outside where
  /-- The text can be parsed as an `http::Uri`. -/
  isUri : String → Bool
  /-- `std::fs::read`, with the text of its error. -/
  readFile : String → Except String (List UInt8)
  /-- The text of the error with which the engine refuses options, if it does. -/
  refused : TonicOptions → Option String
  /-- The text of the error with which `build_pool` refuses a configuration, if it does. -/
  poolRefused : LoadbalancerConfig → Option String

/-! ## TLS files -/

namespace StdTlsSettingsResolver

def certificateMarker : String := "-----BEGIN CERTIFICATE-----"

def privateKeyMarker : String := "PRIVATE KEY-----"

variable (outside : Outside)

/-- `read_pem`. The markers are ASCII, so they are in the text iff their bytes are in the
file, whatever the lossy reading makes of bytes that are not text. -/
def readPem (path marker missing : String) : Except GrpcChannelConfigError (List UInt8) :=
  match outside.readFile path with
  | .error e => .error (.unusableTlsFile path e)
  | .ok bytes =>
    if Text.contains marker.toList (bytes.map fun byte => Char.ofNat byte.toNat) then .ok bytes
    else .error (.unusableTlsFile path missing)

/-- `resolve`. -/
def resolve (identity : Option MtlsConfig) (rootCa : Option String) :
    Except GrpcChannelConfigError TlsSettings := do
  let roots ←
    match rootCa with
    | some path => do
      let ca ← readPem outside path certificateMarker "no certificate found in the file"
      pure [ca]
    | none => pure []
  let identity ←
    match identity with
    | some mtls => do
      let certificate ←
        readPem outside mtls.certPemPath certificateMarker "no certificate found in the file"
      let key ← readPem outside mtls.keyPemPath privateKeyMarker "no private key found in the file"
      pure (some ⟨certificate, key⟩)
    | none => pure none
  pure ⟨none, roots, identity⟩

end StdTlsSettingsResolver

/-! ## The client that is built -/

/-- `EndpointTransport`. -/
structure EndpointTransport where
  clients : List (String × TonicOptions)
  pool : Option LoadbalancerConfig
deriving DecidableEq

namespace EndpointTransport

/-- `create_pool`. -/
def createPool (outside : Outside) (settings : LoadbalancerSettings) :
    Except GrpcChannelConfigError LoadbalancerConfig :=
  let config : LoadbalancerConfig :=
    ⟨settings.strategy, settings.backends.map fun backend => (backend.url, backend.weight)⟩
  match outside.poolRefused config with
  | some e => .error (.invalidOptionValue "loadbalancer" e)
  | none => .ok config

/-- `try_from`. -/
def tryFrom (outside : Outside) (clients : List (String × TonicOptions))
    (balancing : Option LoadbalancerSettings) :
    Except GrpcChannelConfigError EndpointTransport :=
  match balancing with
  | some settings => (createPool outside settings).map fun pool => ⟨clients, some pool⟩
  | none => .ok ⟨clients, none⟩

/-- `pick`, when the pool selects the backend with the URL `selected`. -/
def pick (transport : EndpointTransport) (selected : Except String String) (path : String) :
    Except CallError TonicOptions :=
  match transport.pool with
  | none =>
    match transport.clients.head? with
    | some entry => .ok entry.2
    | none => .error (.transport path .internal "the endpoint has no client")
  | some _ =>
    match selected with
    | .error e => .error (.transport path .unavailable e)
    | .ok url =>
      match transport.clients.find? fun entry => entry.1 == url with
      | some entry => .ok entry.2
      | none =>
        .error (.transport path .internal "the pool picked a backend that has no client")

/-- A call goes to one of the clients. -/
theorem pick_mem {transport : EndpointTransport} {selected : Except String String}
    {path : String} {client : TonicOptions} (picked : transport.pick selected path = .ok client) :
    ∃ url, (url, client) ∈ transport.clients := by
  unfold pick at picked
  split at picked
  · split at picked
    · next entry first =>
      cases picked
      exact ⟨entry.1, List.mem_of_mem_head? first⟩
    · cases picked
  · split at picked
    · cases picked
    · split at picked
      · next entry found =>
        cases picked
        exact ⟨entry.1, List.mem_of_find?_eq_some found⟩
      · cases picked

end EndpointTransport

/-- `InterceptedTransport` over an endpoint. -/
structure BuiltClient where
  endpoint : EndpointTransport
  chain : GrpcEgressInterceptorChain

/-! ## The scheme of an endpoint -/

/-- The endpoint starts with `http://`, in any letter case. -/
def PlaintextScheme (endpoint : String) : Prop :=
  Text.asciiLower (endpoint.toList.take 7) = "http://".toList

instance (endpoint : String) : Decidable (PlaintextScheme endpoint) :=
  inferInstanceAs (Decidable (_ = _))

/-- The endpoint has seven bytes, and the seventh is not the last of a character. -/
def CutsCharacter (endpoint : String) : Prop :=
  7 ≤ Text.byteLength endpoint.toList ∧
    ∀ front, front <+: endpoint.toList → Text.byteLength front ≠ 7

/-- `is_plaintext_endpoint`: the slice panics when it cuts a character. -/
def isPlaintextEndpoint (endpoint : String) : Ran GrpcChannelConfigError Bool :=
  if 7 ≤ Text.byteLength endpoint.toList then do
    let front ← Ran.ofOption (Text.takeBytes 7 endpoint.toList)
    pure (Text.asciiLower front == Text.asciiLower "http://".toList)
  else pure false

/-! ## The builder -/

namespace GrpcEgressBuilderImpl

variable (b : GrpcEgressBuilderImpl)

/-- `presents_identity`. -/
def presentsIdentity : Bool :=
  match b.tls with
  | some (.settings settings) => settings.identity.isSome
  | some (.files _) => true
  | none => false

/-- One limit of `check_values`. -/
def checkLimit (option : String) (value : Option UInt64) : Except GrpcChannelConfigError Unit :=
  if value = some 0 then
    .error (.invalidOptionValue option
      "zero would refuse every message; use a positive number of bytes")
  else .ok ()

/-- `check_values`. -/
def checkValues : Except GrpcChannelConfigError Unit := do
  checkLimit "max_decoding_message_size" b.maxDecodingMessageSize
  checkLimit "max_encoding_message_size" b.maxEncodingMessageSize
  if b.requestTimeout.isZero then
    .error (.invalidOptionValue "request_timeout"
      "zero would end every call at once; use a positive duration")
  else if b.presentsIdentity && b.plaintextAllowed then
    .error (.conflictingOptions "mtls" "plaintext_allowed"
      "mutual TLS needs TLS, and plaintext_allowed lets the client fall back to plaintext")
  else if b.loadbalancer.isSome && b.endpointExplicit then
    .error (.conflictingOptions "endpoint" "loadbalancer"
      "the backends of the load balancer carry the URLs; drop the endpoint")
  else .ok ()

/-- One backend of `list_targets`. -/
def targetOf (outside : Outside) (backend : BackendTarget) :
    Except GrpcChannelConfigError String :=
  if outside.isUri backend.url then .ok backend.url
  else
    .error (.invalidOptionValue "loadbalancer"
      ("backend '" ++ backend.url ++ "' is not a valid URL"))

/-- `list_targets`. -/
def listTargets (outside : Outside) : Except GrpcChannelConfigError (List String) :=
  match b.loadbalancer with
  | none => .ok [b.endpoint]
  | some settings =>
    if settings.backends.isEmpty then
      .error (.invalidOptionValue "loadbalancer" "no backends; give at least one")
    else settings.backends.mapM (targetOf outside)

/-- `name_tls_option`. -/
def nameTlsOption : Option String :=
  match b.tls with
  | some (.settings _) => some "tls"
  | some (.files _) => some "mtls"
  | none => none

/-- `resolve_tls`. -/
def resolveTls (outside : Outside) : Except GrpcChannelConfigError TlsSettings :=
  match b.tls with
  | some (.settings settings) => .ok settings
  | some (.files mtls) => StdTlsSettingsResolver.resolve outside (some mtls) mtls.caPemPath
  | none => .ok ⟨none, [], none⟩

/-- The options of the client of a target, with these TLS settings. -/
def clientOptions (url : String) (tls : Option TlsSettings) : TonicOptions where
  endpoint := url
  timeout := b.requestTimeout
  maxDecodingMessageSize := b.maxDecodingMessageSize
  maxEncodingMessageSize := b.maxEncodingMessageSize
  tls := tls
  sendCompression := b.sendCompression
  acceptCompression := b.acceptCompression
  http2KeepAliveInterval := b.keepAlive.map KeepAliveConfig.interval
  keepAliveTimeout := b.keepAlive.map KeepAliveConfig.timeout
  keepAliveWhileIdle := b.keepAlive.map KeepAliveConfig.permitWithoutCalls

/-- `create_client`. -/
def createClient (outside : Outside) (tls : TlsSettings) (url : String) :
    Ran GrpcChannelConfigError TonicOptions := do
  let plaintext ← isPlaintextEndpoint url
  let options := b.clientOptions url (if plaintext then none else some tls)
  match outside.refused options with
  | some e => .failed (.invalidOptionValue "endpoint" e)
  | none => pure options

/-- The plaintext check of `build`. -/
def refusePlaintext (targets : List String) : Ran GrpcChannelConfigError Unit :=
  if b.plaintextAllowed then pure ()
  else do
    let found ← targets.findM? isPlaintextEndpoint
    match found with
    | some url => .failed (.plaintextRejected url)
    | none => pure ()

/-- The check of `build` for a TLS option. -/
def refuseTlsOption (targets : List String) : Ran GrpcChannelConfigError Unit :=
  match b.nameTlsOption with
  | none => pure ()
  | some option => do
    let plaintext ← targets.allM isPlaintextEndpoint
    if plaintext then .failed (.tlsOptionOnPlaintextEndpoint option (targets.head?.getD ""))
    else pure ()

/-- The loop of `build` over the targets. -/
def createClients (outside : Outside) (tls : TlsSettings) (targets : List String) :
    Ran GrpcChannelConfigError (List (String × TonicOptions)) :=
  targets.mapM fun url => do
    let client ← b.createClient outside tls url
    pure (url, client)

def build (outside : Outside) : Ran GrpcChannelConfigError BuiltClient := do
  Ran.ofExcept b.checkValues
  let targets ← Ran.ofExcept (b.listTargets outside)
  b.refusePlaintext targets
  b.refuseTlsOption targets
  let tls ← Ran.ofExcept (b.resolveTls outside)
  let clients ← b.createClients outside tls targets
  let endpoint ← Ran.ofExcept (EndpointTransport.tryFrom outside clients b.loadbalancer)
  pure ⟨endpoint, b.interceptors.foldl GrpcEgressInterceptorChain.push []⟩

/-- Where calls go: the endpoint, or each backend of the load balancer. -/
def targets : List String :=
  match b.loadbalancer with
  | none => [b.endpoint]
  | some settings => settings.backends.map BackendTarget.url

theorem targets_configured (endpoint : String) (calls : List WithCall) :
    (configured endpoint calls).targets = lastTargets endpoint calls := by
  unfold targets lastTargets
  rw [loadbalancer_configured, endpoint_configured]
  cases (calls.filterMap WithCall.loadbalancer).getLast? with
  | none => rfl
  | some settings => rfl

/-- The options of the client of a target: with the TLS settings iff it is not plaintext. -/
def targetOptions (tls : TlsSettings) (url : String) : TonicOptions :=
  b.clientOptions url (if PlaintextScheme url then none else some tls)

end GrpcEgressBuilderImpl

/-! ## What the scheme test says -/

section

variable {url : String}

theorem plaintextScheme_iff : PlaintextScheme url ↔
    ∃ front, Text.takeBytes 7 url.toList = some front ∧
      Text.asciiLower front = "http://".toList := by
  have all : ("http://".toList.all fun c => c.utf8Size == 1) = true := by decide
  have ascii : ∀ c ∈ "http://".toList, c.utf8Size = 1 := fun c member =>
    beq_iff_eq.mp (List.all_eq_true.mp all c member)
  exact Text.asciiLower_take ascii

theorem cutsCharacter_iff : CutsCharacter url ↔
    7 ≤ Text.byteLength url.toList ∧ Text.takeBytes 7 url.toList = none := by
  rw [Option.eq_none_iff_forall_ne_some]
  refine and_congr Iff.rfl (forall_congr' fun front => ?_)
  rw [Ne, Ne, Text.takeBytes_eq_some, not_and]

/-- The test panics on a cut, and else says what the scheme is. -/
theorem isPlaintextEndpoint_cases (url : String) :
    (CutsCharacter url ∧ ¬PlaintextScheme url ∧ isPlaintextEndpoint url = .panicked) ∨
    (¬CutsCharacter url ∧ isPlaintextEndpoint url = .returned (decide (PlaintextScheme url))) := by
  rw [cutsCharacter_iff]
  unfold isPlaintextEndpoint
  cases taken : Text.takeBytes 7 url.toList with
  | none =>
    have other : ¬PlaintextScheme url := by
      rw [plaintextScheme_iff, taken]
      rintro ⟨front, ⟨⟩, -⟩
    by_cases long : 7 ≤ Text.byteLength url.toList
    · rw [if_pos long]
      exact .inl ⟨⟨long, rfl⟩, other, rfl⟩
    · rw [if_neg long, decide_eq_false other]
      exact .inr ⟨fun cut => long cut.1, rfl⟩
  | some front =>
    have long : 7 ≤ Text.byteLength url.toList := by
      obtain ⟨⟨rest, joined⟩, seven⟩ := Text.takeBytes_eq_some.mp taken
      rw [← joined, Text.byteLength_append, seven]
      exact Nat.le_add_right 7 _
    have scheme : PlaintextScheme url ↔ Text.asciiLower front = "http://".toList := by
      rw [plaintextScheme_iff, taken]
      constructor
      · rintro ⟨other, ⟨⟩, same⟩
        exact same
      · intro same
        exact ⟨front, rfl, same⟩
    have lower : Text.asciiLower "http://".toList = "http://".toList := by decide
    rw [if_pos long]
    refine .inr ⟨fun cut => (by cases cut.2), congrArg Ran.returned ?_⟩
    rw [Bool.eq_iff_iff, beq_iff_eq, decide_eq_true_iff, lower, scheme]

theorem isPlaintextEndpoint_eq_panicked : isPlaintextEndpoint url = .panicked ↔
    CutsCharacter url := by
  rcases isPlaintextEndpoint_cases url with ⟨cut, -, ran⟩ | ⟨whole, ran⟩
  · simp [ran, cut]
  · simp [ran, whole]

theorem isPlaintextEndpoint_eq_true : isPlaintextEndpoint url = .returned true ↔
    PlaintextScheme url := by
  rcases isPlaintextEndpoint_cases url with ⟨-, other, ran⟩ | ⟨-, ran⟩
  · simp [ran, other]
  · simp [ran]

theorem isPlaintextEndpoint_eq_false : isPlaintextEndpoint url = .returned false ↔
    ¬CutsCharacter url ∧ ¬PlaintextScheme url := by
  rcases isPlaintextEndpoint_cases url with ⟨cut, -, ran⟩ | ⟨whole, ran⟩
  · simp [ran, cut]
  · simp [ran, whole]

theorem isPlaintextEndpoint_ne_failed {e : GrpcChannelConfigError} :
    isPlaintextEndpoint url ≠ .failed e := by
  rcases isPlaintextEndpoint_cases url with ⟨-, -, ran⟩ | ⟨-, ran⟩
  · simp [ran]
  · simp [ran]

/-- A target with the scheme can be tested. -/
theorem PlaintextScheme.not_cuts (scheme : PlaintextScheme url) : ¬CutsCharacter url := by
  rcases isPlaintextEndpoint_cases url with ⟨-, other, -⟩ | ⟨whole, -⟩
  · exact absurd scheme other
  · exact whole

end

/-! ## The stages of `build` -/

namespace GrpcEgressBuilderImpl

variable {b : GrpcEgressBuilderImpl} {outside : Outside} {targets : List String}

theorem checkLimit_eq_ok {option : String} {value : Option UInt64} :
    checkLimit option value = .ok () ↔ value ≠ some 0 := by
  unfold checkLimit
  split
  · next zero => simp [zero]
  · next positive => simp [positive]

/-- The values that pass. -/
theorem checkValues_eq_ok : b.checkValues = .ok () ↔
    b.maxDecodingMessageSize ≠ some 0 ∧ b.maxEncodingMessageSize ≠ some 0 ∧
    b.requestTimeout.isZero = false ∧ (b.presentsIdentity && b.plaintextAllowed) = false ∧
    (b.loadbalancer.isSome && b.endpointExplicit) = false := by
  have after : ∀ {x y : Except GrpcChannelConfigError Unit},
      (x >>= fun _ => y) = .ok () ↔ x = .ok () ∧ y = .ok () := by
    intro x y
    cases x with
    | error e =>
      constructor
      · rintro ⟨⟩
      · rintro ⟨⟨⟩, -⟩
    | ok done => exact ⟨fun passed => ⟨rfl, passed⟩, And.right⟩
  unfold checkValues
  rw [after, after, checkLimit_eq_ok, checkLimit_eq_ok]
  refine and_congr Iff.rfl (and_congr Iff.rfl ?_)
  cases b.requestTimeout.isZero with
  | true => simp
  | false =>
    cases b.presentsIdentity && b.plaintextAllowed with
    | true => simp
    | false =>
      cases b.loadbalancer.isSome && b.endpointExplicit with
      | true => simp
      | false => simp

theorem targetOf_ok {backend : BackendTarget} {url : String}
    (listed : targetOf outside backend = .ok url) : url = backend.url := by
  unfold targetOf at listed
  split at listed
  · cases listed
    rfl
  · cases listed

theorem targets_of_mapM {backends : List BackendTarget} {urls : List String}
    (listed : backends.mapM (targetOf outside) = .ok urls) :
    urls = backends.map BackendTarget.url := by
  induction backends generalizing urls with
  | nil =>
    cases listed
    rfl
  | cons backend backends ih =>
    rw [List.mapM_cons] at listed
    cases first : targetOf outside backend with
    | error e =>
      rw [first] at listed
      cases listed
    | ok url =>
      cases others : backends.mapM (targetOf outside) with
      | error e =>
        rw [first, others] at listed
        cases listed
      | ok rest =>
        rw [first, others] at listed
        cases listed
        rw [ih others, targetOf_ok first]
        rfl

theorem listTargets_eq (listed : b.listTargets outside = .ok targets) : targets = b.targets := by
  unfold listTargets at listed
  unfold GrpcEgressBuilderImpl.targets
  split at listed
  · cases listed
    rfl
  · split at listed
    · cases listed
    · exact targets_of_mapM listed

theorem nameTlsOption_eq_none : b.nameTlsOption = none ↔ b.tls = none := by
  unfold nameTlsOption
  split <;> simp_all

theorem refusePlaintext_eq_returned : b.refusePlaintext targets = .returned () ↔
    b.plaintextAllowed = true ∨ ∀ url ∈ targets, ¬CutsCharacter url ∧ ¬PlaintextScheme url := by
  unfold refusePlaintext
  cases b.plaintextAllowed with
  | true => simp
  | false =>
    simp only [Bool.false_eq_true, if_false, false_or, Ran.bind_eq_returned,
      ← isPlaintextEndpoint_eq_false]
    rw [← findM?_eq_none]
    constructor
    · rintro ⟨found, looked, rest⟩
      cases found with
      | none => exact looked
      | some url => cases rest
    · intro looked
      exact ⟨none, looked, rfl⟩

theorem refusePlaintext_eq_panicked : b.refusePlaintext targets = .panicked ↔
    b.plaintextAllowed = false ∧
      Reaches (fun url => ¬CutsCharacter url ∧ ¬PlaintextScheme url) CutsCharacter targets := by
  unfold refusePlaintext
  cases b.plaintextAllowed with
  | true => simp
  | false =>
    simp only [Bool.false_eq_true, if_false, true_and, Ran.bind_eq_panicked, findM?_eq_panicked,
      isPlaintextEndpoint_eq_false, isPlaintextEndpoint_eq_panicked]
    constructor
    · rintro (looked | ⟨found, -, rest⟩)
      · exact looked
      · cases found <;> cases rest
    · exact .inl

theorem refuseTlsOption_eq_panicked : b.refuseTlsOption targets = .panicked ↔
    b.tls ≠ none ∧ Reaches PlaintextScheme CutsCharacter targets := by
  rw [Ne, ← nameTlsOption_eq_none]
  unfold refuseTlsOption
  cases b.nameTlsOption with
  | none => simp
  | some option =>
    simp only [reduceCtorEq, not_false_eq_true, true_and, Ran.bind_eq_panicked, allM_eq_panicked,
      isPlaintextEndpoint_eq_true, isPlaintextEndpoint_eq_panicked]
    constructor
    · rintro (looked | ⟨plaintext, -, rest⟩)
      · exact looked
      · cases plaintext <;> cases rest
    · exact .inl

/-- The check for a TLS option panics, passes, or finds nothing but plaintext. -/
theorem refuseTlsOption_cases (b : GrpcEgressBuilderImpl) (targets : List String) :
    b.refuseTlsOption targets = .panicked ∨ b.refuseTlsOption targets = .returned () ∨
      (b.tls ≠ none ∧ (∀ url ∈ targets, PlaintextScheme url) ∧
        ∃ e, b.refuseTlsOption targets = .failed e) := by
  rw [Ne, ← nameTlsOption_eq_none]
  unfold refuseTlsOption
  cases b.nameTlsOption with
  | none => exact .inr (.inl rfl)
  | some option =>
    cases looked : targets.allM isPlaintextEndpoint with
    | panicked => exact .inl rfl
    | failed e =>
      obtain ⟨url, -, failed⟩ := exists_mem_of_allM_failed looked
      exact absurd failed isPlaintextEndpoint_ne_failed
    | returned plaintext =>
      cases plaintext with
      | false => exact .inr (.inl rfl)
      | true =>
        refine .inr (.inr ⟨by simp, fun url member => ?_, _, rfl⟩)
        exact isPlaintextEndpoint_eq_true.mp (allM_eq_true.mp looked url member)

theorem createClient_eq_returned {tls : TlsSettings} {url : String} {client : TonicOptions} :
    b.createClient outside tls url = .returned client ↔
      client = b.targetOptions tls url ∧ ¬CutsCharacter url ∧
        outside.refused (b.targetOptions tls url) = none := by
  unfold createClient targetOptions
  rcases isPlaintextEndpoint_cases url with ⟨cut, -, ran⟩ | ⟨whole, ran⟩
  · simp only [ran, Ran.bind_eq_returned, cut, not_true_eq_false, false_and, and_false, iff_false]
    rintro ⟨plaintext, ⟨⟩, -⟩
  · simp only [ran, Ran.bind_eq_returned, Ran.returned.injEq, exists_eq_left', whole,
      not_false_eq_true, true_and, decide_eq_true_eq]
    cases outside.refused _ with
    | none => simp [eq_comm]
    | some e => simp

theorem createClient_eq_panicked {tls : TlsSettings} {url : String} :
    b.createClient outside tls url = .panicked ↔ CutsCharacter url := by
  unfold createClient
  rw [Ran.bind_eq_panicked, isPlaintextEndpoint_eq_panicked]
  constructor
  · rintro (cut | ⟨plaintext, -, rest⟩)
    · exact cut
    · simp only at rest
      split at rest <;> cases rest
  · exact .inl

/-- The clients are those of the targets, in order. -/
theorem createClients_eq_returned {tls : TlsSettings} {clients : List (String × TonicOptions)} :
    b.createClients outside tls targets = .returned clients ↔
      clients = targets.map (fun url => (url, b.targetOptions tls url)) ∧
        ∀ url ∈ targets, ¬CutsCharacter url ∧ outside.refused (b.targetOptions tls url) = none := by
  have one : ∀ url entry, (do
      let client ← b.createClient outside tls url
      pure (url, client)) = Ran.returned entry ↔
        entry = (url, b.targetOptions tls url) ∧ ¬CutsCharacter url ∧
          outside.refused (b.targetOptions tls url) = none := by
    intro url entry
    simp only [Ran.bind_eq_returned, createClient_eq_returned, Ran.pure_eq_returned]
    constructor
    · rintro ⟨client, ⟨rfl, accepted⟩, rfl⟩
      exact ⟨rfl, accepted⟩
    · rintro ⟨rfl, accepted⟩
      exact ⟨_, ⟨rfl, accepted⟩, rfl⟩
  unfold createClients
  rw [mapM_eq_returned fun url entry made => ((one url entry).mp made).1]
  refine and_congr Iff.rfl (forall₂_congr fun url _ => ?_)
  rw [one]
  exact and_iff_right rfl

theorem createClients_eq_panicked {tls : TlsSettings} :
    b.createClients outside tls targets = .panicked ↔
      Reaches (fun url => ¬CutsCharacter url ∧ outside.refused (b.targetOptions tls url) = none)
        CutsCharacter targets := by
  have passes : ∀ url, (∃ entry, (do
      let client ← b.createClient outside tls url
      pure (url, client)) = Ran.returned entry) ↔
        ¬CutsCharacter url ∧ outside.refused (b.targetOptions tls url) = none := by
    intro url
    simp only [Ran.bind_eq_returned, createClient_eq_returned, Ran.pure_eq_returned]
    constructor
    · rintro ⟨entry, client, ⟨rfl, accepted⟩, rfl⟩
      exact accepted
    · intro accepted
      exact ⟨_, _, ⟨rfl, accepted⟩, rfl⟩
  have stops : ∀ url, (do
      let client ← b.createClient outside tls url
      pure (url, client)) = (Ran.panicked : Ran GrpcChannelConfigError (String × TonicOptions)) ↔
        CutsCharacter url := by
    intro url
    simp only [Ran.bind_eq_panicked, createClient_eq_panicked, Ran.pure_ne_panicked, and_false,
      exists_false, or_false]
  unfold createClients
  simp only [mapM_eq_panicked, passes, stops]

/-- A client is returned when every stage passes. -/
theorem build_eq_returned {client : BuiltClient} : b.build outside = .returned client ↔
    b.checkValues = .ok () ∧ b.listTargets outside = .ok b.targets ∧
    b.refusePlaintext b.targets = .returned () ∧ b.refuseTlsOption b.targets = .returned () ∧
    ∃ tls clients endpoint, b.resolveTls outside = .ok tls ∧
      b.createClients outside tls b.targets = .returned clients ∧
      EndpointTransport.tryFrom outside clients b.loadbalancer = .ok endpoint ∧
      client = ⟨endpoint, b.interceptors.foldl GrpcEgressInterceptorChain.push []⟩ := by
  unfold build
  simp only [Ran.bind_eq_returned, Ran.ofExcept_eq_returned, Ran.pure_eq_returned]
  constructor
  · rintro ⟨⟨⟩, checked, targets, listed, ⟨⟩, plaintext, ⟨⟩, option, tls, resolved, clients,
      created, endpoint, pooled, rfl⟩
    cases listTargets_eq listed
    exact ⟨checked, listed, plaintext, option, tls, clients, endpoint, resolved, created, pooled,
      rfl⟩
  · rintro ⟨checked, listed, plaintext, option, tls, clients, endpoint, resolved, created, pooled,
      rfl⟩
    exact ⟨(), checked, _, listed, (), plaintext, (), option, tls, resolved, clients, created,
      endpoint, pooled, rfl⟩

/-- A panic is in one of the three places that test the scheme. -/
theorem build_eq_panicked : b.build outside = .panicked ↔
    b.checkValues = .ok () ∧ b.listTargets outside = .ok b.targets ∧
    (b.refusePlaintext b.targets = .panicked ∨
      (b.refusePlaintext b.targets = .returned () ∧
        (b.refuseTlsOption b.targets = .panicked ∨
          (b.refuseTlsOption b.targets = .returned () ∧
            ∃ tls, b.resolveTls outside = .ok tls ∧
              b.createClients outside tls b.targets = .panicked)))) := by
  unfold build
  simp only [Ran.bind_eq_panicked, Ran.ofExcept_ne_panicked, Ran.ofExcept_eq_returned, false_or,
    Ran.pure_ne_panicked, and_false, exists_false, or_false]
  constructor
  · rintro ⟨⟨⟩, checked, targets, listed, rest⟩
    cases listTargets_eq listed
    refine ⟨checked, listed, rest.imp id ?_⟩
    rintro ⟨⟨⟩, plaintext, later⟩
    refine ⟨plaintext, later.imp id ?_⟩
    rintro ⟨⟨⟩, option, tls, resolved, cut⟩
    exact ⟨option, tls, resolved, cut⟩
  · rintro ⟨checked, listed, rest⟩
    refine ⟨(), checked, _, listed, rest.imp id ?_⟩
    rintro ⟨plaintext, later⟩
    refine ⟨(), plaintext, later.imp id ?_⟩
    rintro ⟨option, tls, resolved, cut⟩
    exact ⟨(), option, tls, resolved, cut⟩

end GrpcEgressBuilderImpl

end GrpcEgress
