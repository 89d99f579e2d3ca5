import GrpcEgress.Interceptor.Headers
import GrpcEgress.Lib.Text

/-!
# The options of a client

`GrpcEgressBuilderImpl` holds the options, and each `with_*` method is a function on it.
`WithCall` is a call of one of them, so that a builder in use is `configured`: the calls,
in order, on the builder that the factory made.

Values that their own constructors check (`try_new`) carry what was checked as a field.

1. `BuilderOption.apply_same` and `BuilderOption.apply_sets`: a method that sets one option
   leaves the others as they are, and sets that one whatever was there before;
2. `plaintextAllowed_configured` and `tls_configured`: of the calls that set the plaintext
   permission or the TLS source, the last one wins.
-/

namespace GrpcEgress

/-! ## Values -/

/-- `text.trim().is_empty()`. -/
def blank (text : String) : Bool := (Text.trim text.toList).isEmpty

/-- `Compression`. -/
inductive Compression where
  | gzip | zstd
deriving DecidableEq

/-- `TlsIdentity`. -/
structure TlsIdentity where
  certificate : List UInt8
  key : List UInt8
deriving DecidableEq

/-- `TlsSettings`. -/
structure TlsSettings where
  serverName : Option String
  roots : List (List UInt8)
  identity : Option TlsIdentity
deriving DecidableEq

/-- `GrpcChannelConfigError`. -/
inductive GrpcChannelConfigError where
  | plaintextRejected (endpoint : String)
  | unusableTlsFile (path reason : String)
  | conflictingOptions (first second reason : String)
  | invalidOptionValue (option reason : String)
  | tlsOptionOnPlaintextEndpoint (option endpoint : String)
deriving DecidableEq

/-- `MtlsConfig`. -/
structure MtlsConfig where
  certPemPath : String
  keyPemPath : String
  caPemPath : Option String
  cert : ¬blank certPemPath = true
  key : ¬blank keyPemPath = true
  ca : ¬caPemPath.any blank = true
deriving DecidableEq

/-- `MtlsConfig::try_new`. -/
def MtlsConfig.tryNew (certPemPath keyPemPath : String) (caPemPath : Option String) :
    Except GrpcChannelConfigError MtlsConfig :=
  if cert : blank certPemPath = true then
    .error (.invalidOptionValue "mtls" "cert_pem_path must not be empty")
  else if key : blank keyPemPath = true then
    .error (.invalidOptionValue "mtls" "key_pem_path must not be empty")
  else if ca : caPemPath.any blank = true then
    .error (.invalidOptionValue "mtls" "ca_pem_path must not be empty when set")
  else .ok ⟨certPemPath, keyPemPath, caPemPath, cert, key, ca⟩

theorem MtlsConfig.tryNew_self (config : MtlsConfig) :
    tryNew config.certPemPath config.keyPemPath config.caPemPath = .ok config := by
  rw [tryNew, dif_neg config.cert, dif_neg config.key, dif_neg config.ca]

/-- `KeepAliveConfig`. -/
structure KeepAliveConfig where
  interval : Duration
  timeout : Duration
  permitWithoutCalls : Bool
  interval_pos : ¬interval.isZero = true
  timeout_pos : ¬timeout.isZero = true
deriving DecidableEq

/-- `KeepAliveConfig::try_new`. -/
def KeepAliveConfig.tryNew (interval timeout : Duration) (permitWithoutCalls : Bool) :
    Except String KeepAliveConfig :=
  if interval_pos : interval.isZero = true then .error "interval must be positive"
  else if timeout_pos : timeout.isZero = true then .error "timeout must be positive"
  else .ok ⟨interval, timeout, permitWithoutCalls, interval_pos, timeout_pos⟩

theorem KeepAliveConfig.tryNew_self (config : KeepAliveConfig) :
    tryNew config.interval config.timeout config.permitWithoutCalls = .ok config := by
  rw [tryNew, dif_neg config.interval_pos, dif_neg config.timeout_pos]

/-- `BackendTarget`. -/
structure BackendTarget where
  url : String
  weight : UInt32
  named : ¬blank url = true
  weighted : ¬weight = 0
deriving DecidableEq

/-- `BackendTarget::try_new`. -/
def BackendTarget.tryNew (url : String) (weight : UInt32) : Except String BackendTarget :=
  if named : blank url = true then .error "backend url must not be empty"
  else if weighted : weight = 0 then .error "backend weight must be >= 1"
  else .ok ⟨url, weight, named, weighted⟩

theorem BackendTarget.tryNew_self (backend : BackendTarget) :
    tryNew backend.url backend.weight = .ok backend := by
  rw [tryNew, dif_neg backend.named, dif_neg backend.weighted]

/-- `BalancingStrategy`, and `Strategy`, which has the same values. -/
inductive BalancingStrategy where
  | roundRobin | weighted | leastConnections
deriving DecidableEq

/-- `LoadbalancerSettings`. -/
structure LoadbalancerSettings where
  strategy : BalancingStrategy
  backends : List BackendTarget
  nonempty : ¬backends.isEmpty = true
deriving DecidableEq

/-- `LoadbalancerSettings::try_new`. -/
def LoadbalancerSettings.tryNew (strategy : BalancingStrategy) (backends : List BackendTarget) :
    Except String LoadbalancerSettings :=
  if nonempty : backends.isEmpty = true then .error "backends must contain at least one target"
  else .ok ⟨strategy, backends, nonempty⟩

theorem LoadbalancerSettings.tryNew_self (settings : LoadbalancerSettings) :
    tryNew settings.strategy settings.backends = .ok settings := by
  rw [tryNew, dif_neg settings.nonempty]

/-- `CompressionMode`. -/
inductive CompressionMode where
  | none | gzip | zstd
deriving DecidableEq

/-- `GrpcChannelConfig`; a `usize` has 64 bits. -/
structure GrpcChannelConfig where
  endpoint : String
  tlsRequired : Bool
  mtls : Option MtlsConfig
  keepAlive : Option KeepAliveConfig
  maxMessageBytes : UInt64
  compression : CompressionMode
  requestTimeoutSecs : Option UInt64
  maxMessageBytes_pos : ¬maxMessageBytes = 0
  requestTimeoutSecs_pos : ¬requestTimeoutSecs = some 0
deriving DecidableEq

namespace GrpcChannelConfig

/-- `GrpcChannelConfig::try_new`. -/
def tryNew (endpoint : String) (tlsRequired : Bool) (mtls : Option MtlsConfig)
    (keepAlive : Option KeepAliveConfig) (maxMessageBytes : UInt64)
    (compression : CompressionMode) (requestTimeoutSecs : Option UInt64) :
    Except String GrpcChannelConfig :=
  if blank endpoint then .error "endpoint must not be empty"
  else if bytes : maxMessageBytes = 0 then .error "max_message_bytes must be >= 1"
  else if secs : requestTimeoutSecs = some 0 then
    .error "request_timeout_secs must be >= 1 when set"
  else
    .ok ⟨endpoint, tlsRequired, mtls, keepAlive, maxMessageBytes, compression,
      requestTimeoutSecs, bytes, secs⟩

/-- `GrpcChannelConfig::default`, whose endpoint `try_new` would not accept. -/
def default : GrpcChannelConfig :=
  ⟨"", true, none, none, 4194304, .none, none, by decide, by decide⟩

/-- The configuration was accepted by `try_new`. -/
def Accepted (config : GrpcChannelConfig) : Prop :=
  ∃ endpoint tlsRequired mtls keepAlive maxMessageBytes compression requestTimeoutSecs,
    tryNew endpoint tlsRequired mtls keepAlive maxMessageBytes compression requestTimeoutSecs =
      .ok config

/-- Among the configurations that there are, those whose endpoint is not blank. -/
theorem accepted_iff {config : GrpcChannelConfig} :
    config.Accepted ↔ ¬blank config.endpoint = true := by
  constructor
  · rintro ⟨endpoint, tlsRequired, mtls, keepAlive, bytes, compression, secs, made⟩
    unfold tryNew at made
    split at made
    · cases made
    · next named =>
      split at made
      · cases made
      · split at made
        · cases made
        · cases made
          exact named
  · intro named
    refine ⟨config.endpoint, config.tlsRequired, config.mtls, config.keepAlive,
      config.maxMessageBytes, config.compression, config.requestTimeoutSecs, ?_⟩
    rw [tryNew, if_neg named, dif_neg config.maxMessageBytes_pos,
      dif_neg config.requestTimeoutSecs_pos]

example : ¬default.Accepted := fun accepted => absurd rfl (accepted_iff.mp accepted)

end GrpcChannelConfig

/-- `TlsSource`. -/
inductive TlsSource where
  | settings (settings : TlsSettings)
  | files (mtls : MtlsConfig)
deriving DecidableEq

/-! ## The builder -/

/-- `DEFAULT_REQUEST_TIMEOUT_SECS`. -/
def defaultRequestTimeoutSecs : UInt64 := 30

/-- `GrpcEgressBuilderImpl`. -/
structure GrpcEgressBuilderImpl where
  endpoint : String
  endpointExplicit : Bool
  plaintextAllowed : Bool
  requestTimeout : Duration
  maxDecodingMessageSize : Option UInt64
  maxEncodingMessageSize : Option UInt64
  sendCompression : Option Compression
  acceptCompression : List Compression
  interceptors : List GrpcEgressInterceptor
  tls : Option TlsSource
  keepAlive : Option KeepAliveConfig
  loadbalancer : Option LoadbalancerSettings

namespace GrpcEgressBuilderImpl

/-- The builder of a factory for the endpoint. -/
def ofEndpoint (endpoint : String) : GrpcEgressBuilderImpl where
  endpoint := endpoint
  endpointExplicit := false
  plaintextAllowed := false
  requestTimeout := .fromSecs defaultRequestTimeoutSecs
  maxDecodingMessageSize := none
  maxEncodingMessageSize := none
  sendCompression := none
  acceptCompression := []
  interceptors := []
  tls := none
  keepAlive := none
  loadbalancer := none

variable (b : GrpcEgressBuilderImpl)

def withEndpoint (endpoint : String) : GrpcEgressBuilderImpl :=
  { b with endpoint := endpoint, endpointExplicit := true }

def withPlaintextAllowed : GrpcEgressBuilderImpl := { b with plaintextAllowed := true }

def withRequestTimeout (timeout : Duration) : GrpcEgressBuilderImpl :=
  { b with requestTimeout := timeout }

def withMaxDecodingMessageSize (bytes : UInt64) : GrpcEgressBuilderImpl :=
  { b with maxDecodingMessageSize := some bytes }

def withMaxEncodingMessageSize (bytes : UInt64) : GrpcEgressBuilderImpl :=
  { b with maxEncodingMessageSize := some bytes }

def withSendCompression (compression : Compression) : GrpcEgressBuilderImpl :=
  { b with sendCompression := some compression }

def withAcceptCompression (compression : Compression) : GrpcEgressBuilderImpl :=
  { b with acceptCompression := b.acceptCompression ++ [compression] }

def withTls (tls : TlsSettings) : GrpcEgressBuilderImpl := { b with tls := some (.settings tls) }

def withKeepAlive (keepAlive : KeepAliveConfig) : GrpcEgressBuilderImpl :=
  { b with keepAlive := some keepAlive }

def withLoadbalancer (settings : LoadbalancerSettings) : GrpcEgressBuilderImpl :=
  { b with loadbalancer := some settings }

def withInterceptor (interceptor : GrpcEgressInterceptor) : GrpcEgressBuilderImpl :=
  { b with interceptors := b.interceptors ++ [interceptor] }

def withTraceContext (source : TraceContextSource) : GrpcEgressBuilderImpl :=
  b.withInterceptor (TraceContextGrpcEgressInterceptor.ofSource source)

/-- `read_compression`. -/
def readCompression : CompressionMode → Option Compression
  | .none => none
  | .gzip => some .gzip
  | .zstd => some .zstd

def withChannelConfig (config : GrpcChannelConfig) : GrpcEgressBuilderImpl :=
  let requestTimeout :=
    match config.requestTimeoutSecs with
    | some secs => .fromSecs secs
    | none => b.requestTimeout
  let (sendCompression, acceptCompression) :=
    match readCompression config.compression with
    | some compression => (some compression, [compression])
    | none => (b.sendCompression, b.acceptCompression)
  { b with
    endpoint := config.endpoint
    endpointExplicit := b.endpointExplicit || !config.endpoint.isEmpty
    plaintextAllowed := !config.tlsRequired
    requestTimeout := requestTimeout
    maxDecodingMessageSize := some config.maxMessageBytes
    maxEncodingMessageSize := some config.maxMessageBytes
    sendCompression := sendCompression
    acceptCompression := acceptCompression
    tls := (config.mtls.map TlsSource.files).or b.tls
    keepAlive := config.keepAlive.or b.keepAlive }

end GrpcEgressBuilderImpl

open GrpcEgressBuilderImpl

/-! ## Calls of the builder -/

/-- A call of a method that sets one option. -/
inductive BuilderOption where
  | endpoint (endpoint : String)
  | plaintextAllowed
  | requestTimeout (timeout : Duration)
  | maxDecodingMessageSize (bytes : UInt64)
  | maxEncodingMessageSize (bytes : UInt64)
  | sendCompression (compression : Compression)
  | acceptCompression (compression : Compression)
  | tls (tls : TlsSettings)
  | keepAlive (keepAlive : KeepAliveConfig)
  | loadbalancer (settings : LoadbalancerSettings)
  | interceptor (interceptor : GrpcEgressInterceptor)
  | traceContext (source : TraceContextSource)

/-- A call of a `with_*` method. -/
inductive WithCall where
  | single (option : BuilderOption)
  | channelConfig (config : GrpcChannelConfig)

def BuilderOption.apply (b : GrpcEgressBuilderImpl) : BuilderOption → GrpcEgressBuilderImpl
  | .endpoint url => b.withEndpoint url
  | .plaintextAllowed => b.withPlaintextAllowed
  | .requestTimeout timeout => b.withRequestTimeout timeout
  | .maxDecodingMessageSize bytes => b.withMaxDecodingMessageSize bytes
  | .maxEncodingMessageSize bytes => b.withMaxEncodingMessageSize bytes
  | .sendCompression compression => b.withSendCompression compression
  | .acceptCompression compression => b.withAcceptCompression compression
  | .tls settings => b.withTls settings
  | .keepAlive config => b.withKeepAlive config
  | .loadbalancer settings => b.withLoadbalancer settings
  | .interceptor hooks => b.withInterceptor hooks
  | .traceContext source => b.withTraceContext source

def WithCall.apply (b : GrpcEgressBuilderImpl) : WithCall → GrpcEgressBuilderImpl
  | .single option => option.apply b
  | .channelConfig config => b.withChannelConfig config

/-- The builder of a factory for the endpoint, after the calls. -/
def configured (endpoint : String) (calls : List WithCall) : GrpcEgressBuilderImpl :=
  calls.foldl WithCall.apply (.ofEndpoint endpoint)

/-! ## Settings -/

/-- What the methods set. -/
inductive Setting where
  | endpoint | plaintext | requestTimeout | maxDecodingMessageSize | maxEncodingMessageSize
  | sendCompression | acceptCompression | interceptors | tls | keepAlive | loadbalancer
deriving DecidableEq

/-- The setting is the same in both builders. -/
def Setting.Same (b b' : GrpcEgressBuilderImpl) : Setting → Prop
  | .endpoint => b.endpoint = b'.endpoint ∧ b.endpointExplicit = b'.endpointExplicit
  | .plaintext => b.plaintextAllowed = b'.plaintextAllowed
  | .requestTimeout => b.requestTimeout = b'.requestTimeout
  | .maxDecodingMessageSize => b.maxDecodingMessageSize = b'.maxDecodingMessageSize
  | .maxEncodingMessageSize => b.maxEncodingMessageSize = b'.maxEncodingMessageSize
  | .sendCompression => b.sendCompression = b'.sendCompression
  | .acceptCompression => b.acceptCompression = b'.acceptCompression
  | .interceptors => b.interceptors = b'.interceptors
  | .tls => b.tls = b'.tls
  | .keepAlive => b.keepAlive = b'.keepAlive
  | .loadbalancer => b.loadbalancer = b'.loadbalancer

namespace BuilderOption

/-- The setting that a method names. -/
def setting : BuilderOption → Setting
  | .endpoint _ => .endpoint
  | .plaintextAllowed => .plaintext
  | .requestTimeout _ => .requestTimeout
  | .maxDecodingMessageSize _ => .maxDecodingMessageSize
  | .maxEncodingMessageSize _ => .maxEncodingMessageSize
  | .sendCompression _ => .sendCompression
  | .acceptCompression _ => .acceptCompression
  | .tls _ => .tls
  | .keepAlive _ => .keepAlive
  | .loadbalancer _ => .loadbalancer
  | .interceptor _ => .interceptors
  | .traceContext _ => .interceptors

/-- The methods that add to what was set before. -/
def adds : BuilderOption → Bool
  | .acceptCompression _ | .interceptor _ | .traceContext _ => true
  | _ => false

/-- The other settings are left as they were. -/
theorem apply_same (option : BuilderOption) (b : GrpcEgressBuilderImpl) {setting : Setting}
    (other : setting ≠ option.setting) : setting.Same (option.apply b) b := by
  cases option <;> cases setting <;> first
    | exact absurd rfl other
    | exact ⟨rfl, rfl⟩
    | rfl

/-- The last call of a method that does not add wins. -/
theorem apply_sets {option : BuilderOption} (sets : option.adds = false)
    (b b' : GrpcEgressBuilderImpl) : option.setting.Same (option.apply b) (option.apply b') := by
  cases option <;> first
    | exact ⟨rfl, rfl⟩
    | rfl
    | cases sets

end BuilderOption

/-! ## The last call wins -/

namespace WithCall

/-- What a call says of plaintext, if it does. -/
def plaintext : WithCall → Option Bool
  | .single .plaintextAllowed => some true
  | .channelConfig config => some !config.tlsRequired
  | .single _ => none

/-- The TLS source that a call gives, if it does. -/
def tls : WithCall → Option TlsSource
  | .single (.tls settings) => some (.settings settings)
  | .channelConfig config => config.mtls.map .files
  | .single _ => none

/-- The endpoint that a call gives, if it does. -/
def endpoint : WithCall → Option String
  | .single (.endpoint url) => some url
  | .channelConfig config => some config.endpoint
  | .single _ => none

/-- The balancing settings that a call gives, if it does. -/
def loadbalancer : WithCall → Option LoadbalancerSettings
  | .single (.loadbalancer settings) => some settings
  | .channelConfig _ | .single _ => none

end WithCall

/-- The last setting of plaintext; without one it is not allowed. -/
def lastPlaintext (calls : List WithCall) : Bool :=
  (calls.filterMap WithCall.plaintext).getLast?.getD false

/-- The last TLS source that was given. -/
def lastTls (calls : List WithCall) : Option TlsSource :=
  (calls.filterMap WithCall.tls).getLast?

/-- Where calls go: to the backends that were given last, or else to the endpoint that was. -/
def lastTargets (endpoint : String) (calls : List WithCall) : List String :=
  match (calls.filterMap WithCall.loadbalancer).getLast? with
  | some settings => settings.backends.map BackendTarget.url
  | none => [(calls.filterMap WithCall.endpoint).getLast?.getD endpoint]

/-- A field that each call sets or leaves: the last call that sets it wins. -/
theorem foldl_sets {σ α β : Type} {apply : σ → α → σ} (field : σ → Option β) (sets : α → Option β)
    (one : ∀ s a, field (apply s a) = (sets a).or (field s)) (s : σ) (calls : List α) :
    field (calls.foldl apply s) = (calls.filterMap sets).getLast?.or (field s) := by
  induction calls generalizing s with
  | nil => rfl
  | cons a calls ih =>
    rw [List.foldl_cons, ih, one]
    cases set : sets a with
    | none => rw [List.filterMap_cons_none set, Option.none_or]
    | some v =>
      rw [List.filterMap_cons_some set, List.getLast?_cons]
      cases (calls.filterMap sets).getLast? with
      | none => rfl
      | some last => rfl

theorem plaintextAllowed_configured (endpoint : String) (calls : List WithCall) :
    (configured endpoint calls).plaintextAllowed = lastPlaintext calls := by
  have one : ∀ b call, some (WithCall.apply b call).plaintextAllowed =
      call.plaintext.or (some b.plaintextAllowed) := by
    intro b call
    cases call with
    | channelConfig config => rfl
    | single option => cases option <;> rfl
  have last : some (configured endpoint calls).plaintextAllowed =
      (calls.filterMap WithCall.plaintext).getLast?.or (some false) :=
    foldl_sets (fun b => some (plaintextAllowed b)) _ one _ calls
  unfold lastPlaintext
  cases set : (calls.filterMap WithCall.plaintext).getLast? with
  | none =>
    rw [set] at last
    exact Option.some.inj last
  | some allowed =>
    rw [set] at last
    exact Option.some.inj last

theorem tls_configured (endpoint : String) (calls : List WithCall) :
    (configured endpoint calls).tls = lastTls calls := by
  have one : ∀ b call, (WithCall.apply b call).tls = call.tls.or b.tls := by
    intro b call
    cases call with
    | channelConfig config => rfl
    | single option => cases option <;> rfl
  have last : (configured endpoint calls).tls =
      (calls.filterMap WithCall.tls).getLast?.or none :=
    foldl_sets GrpcEgressBuilderImpl.tls _ one _ calls
  rw [last, Option.or_none]
  rfl

theorem loadbalancer_configured (endpoint : String) (calls : List WithCall) :
    (configured endpoint calls).loadbalancer =
      (calls.filterMap WithCall.loadbalancer).getLast? := by
  have one : ∀ b call, (WithCall.apply b call).loadbalancer =
      call.loadbalancer.or b.loadbalancer := by
    intro b call
    cases call with
    | channelConfig config => rfl
    | single option => cases option <;> rfl
  have last : (configured endpoint calls).loadbalancer =
      (calls.filterMap WithCall.loadbalancer).getLast?.or none :=
    foldl_sets GrpcEgressBuilderImpl.loadbalancer _ one _ calls
  rw [last, Option.or_none]

theorem endpoint_configured (endpoint : String) (calls : List WithCall) :
    (configured endpoint calls).endpoint =
      (calls.filterMap WithCall.endpoint).getLast?.getD endpoint := by
  have one : ∀ b call, some (WithCall.apply b call).endpoint =
      call.endpoint.or (some b.endpoint) := by
    intro b call
    cases call with
    | channelConfig config => rfl
    | single option => cases option <;> rfl
  have last : some (configured endpoint calls).endpoint =
      (calls.filterMap WithCall.endpoint).getLast?.or (some endpoint) :=
    foldl_sets (fun b => some (GrpcEgressBuilderImpl.endpoint b)) _ one _ calls
  rw [Option.or_some] at last
  exact Option.some.inj last

end GrpcEgress
