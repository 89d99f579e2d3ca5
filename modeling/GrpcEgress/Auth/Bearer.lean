import GrpcEgress.Interceptor.Headers
import GrpcEgress.Resilient.Load
import GrpcEgress.Resilient.Requests

/-!
# The bearer token of a call

What `BearerEgressInterceptor` signs and when. A secret holds key material and a
configuration its four claims; neither can be built without. The signing crate is a
parameter, and so is what the clock says: nothing when it is before the epoch, else the
whole seconds since.

A client that retries runs the interceptor again for each attempt, so each attempt mints
its own token. A failure to mint one is a failure of the attempt like any other: the loop
does not retry it, and the breaker takes it for one of the peer.

1. `signToken_eq`: the algorithm, the key and the claims of a token, and `signToken_ok_iff`,
   when one is signed;
2. `token_of_each_attempt`: what the attempts of a call carry;
3. `unmintable_token_opens_circuit`: a key that cannot be read.
-/

namespace GrpcEgress

open GrpcEgressInterceptorChain InterceptedTransport StdFailureClassifier

/-! ## The configuration -/

/-- `BearerAuthError`. The source of a `SignFailed` is given by its text. -/
inductive BearerAuthError where
  | signFailed (source : String)
  | invalidSystemTime
  | validationFailed (reason : String)
deriving DecidableEq

/-- How an error reads. -/
def BearerAuthError.toText : BearerAuthError → String
  | .signFailed _ => "failed to mint bearer token"
  | .invalidSystemTime => "system clock is before Unix epoch"
  | .validationFailed reason => "validation error: " ++ reason

/-- `SecretMaterial`. -/
inductive SecretMaterial where
  | hs256 (secret : List UInt8)
  | rs256 (privatePem : List UInt8)
deriving DecidableEq

def SecretMaterial.bytes : SecretMaterial → List UInt8
  | .hs256 bytes | .rs256 bytes => bytes

/-- `BearerSecret`: key material, of some length. -/
structure BearerSecret where
  material : SecretMaterial
  material_some : material.bytes ≠ []

namespace BearerSecret

/-- `try_from`. -/
def tryFrom (material : SecretMaterial) : Except BearerAuthError BearerSecret :=
  if blank : material.bytes = [] then
    match material with
    | .hs256 _ => .error (.validationFailed "HS256 secret must not be empty")
    | .rs256 _ => .error (.validationFailed "RS256 private PEM must not be empty")
  else .ok ⟨material, blank⟩

/-- `hs256`. -/
def hs256 (secret : List UInt8) : Except BearerAuthError BearerSecret := tryFrom (.hs256 secret)

/-- `rs256`. -/
def rs256 (privatePem : List UInt8) : Except BearerAuthError BearerSecret :=
  tryFrom (.rs256 privatePem)

/-- `hs256_secret`. -/
def hs256Secret (secret : BearerSecret) : Option (List UInt8) :=
  match secret.material with
  | .hs256 bytes => some bytes
  | .rs256 _ => none

/-- `rs256_private_pem`. -/
def rs256PrivatePem (secret : BearerSecret) : Option (List UInt8) :=
  match secret.material with
  | .rs256 bytes => some bytes
  | .hs256 _ => none

end BearerSecret

/-- `StdBearerSecretGuard::ct_eq_hs256`. -/
def StdBearerSecretGuard.ctEqHs256 (left right : BearerSecret) : Bool :=
  match left.hs256Secret, right.hs256Secret with
  | some a, some b => a == b
  | _, _ => false

/-- `BearerEgressConfig`: a secret and the claims that `validate` accepts. -/
structure BearerEgressConfig where
  secret : BearerSecret
  issuer : String
  audience : String
  subject : String
  lifetimeSeconds : UInt64
  issuer_some : issuer ≠ ""
  audience_some : audience ≠ ""
  subject_some : subject ≠ ""
  lifetimeSeconds_pos : lifetimeSeconds ≠ 0

namespace BearerEgressConfig

/-- `try_new`, with the checks of `validate`. -/
def tryNew (secret : BearerSecret) (issuer audience subject : String) (lifetimeSeconds : UInt64) :
    Except BearerAuthError BearerEgressConfig :=
  if h1 : issuer = "" then .error (.validationFailed "issuer must not be empty")
  else if h2 : audience = "" then .error (.validationFailed "audience must not be empty")
  else if h3 : subject = "" then .error (.validationFailed "subject must not be empty")
  else if h4 : lifetimeSeconds = 0 then
    .error (.validationFailed "lifetime_seconds must be >= 1")
  else .ok ⟨secret, issuer, audience, subject, lifetimeSeconds, h1, h2, h3, h4⟩

end BearerEgressConfig

/-! ## Signing -/

/-- `Algorithm`, as far as tokens are signed with it. -/
inductive Algorithm where
  | hs256 | rs256
deriving DecidableEq

/-- `JwtClaims`. -/
structure JwtClaims where
  iss : String
  aud : String
  sub : String
  iat : UInt64
  exp : UInt64
deriving DecidableEq

/-- The signing crate: how it makes a key and what it encodes, or the text of its error. -/
structure Jsonwebtoken (κ : Type) where
  fromSecret : List UInt8 → κ
  fromRsaPem : List UInt8 → Except String κ
  encode : Algorithm → JwtClaims → κ → Except String String

/-- `saturating_add` on a `u64`. -/
def saturatingAddU64 (a b : UInt64) : UInt64 :=
  if a.toNat + b.toNat < UInt64.size then a + b else 18446744073709551615

namespace BearerEgressInterceptor

variable {κ : Type} (lib : Jsonwebtoken κ) (config : BearerEgressConfig)

/-- The claims of a token that is signed at `now`. -/
def claimsAt (now : UInt64) : JwtClaims where
  iss := config.issuer
  aud := config.audience
  sub := config.subject
  iat := now
  exp := saturatingAddU64 now config.lifetimeSeconds

/-- `sign_token`, when the clock says `now`. -/
def signToken (now : Option UInt64) : Except BearerAuthError String :=
  match now with
  | none => .error .invalidSystemTime
  | some now =>
    let claims := claimsAt config now
    let signing : Except BearerAuthError (Algorithm × κ) :=
      match config.secret.hs256Secret with
      | some secret => .ok (.hs256, lib.fromSecret secret)
      | none =>
        match config.secret.rs256PrivatePem with
        | some privatePem =>
          match lib.fromRsaPem privatePem with
          | .ok key => .ok (.rs256, key)
          | .error e => .error (.signFailed e)
        | none => .error (.signFailed "no supported signing key")
    match signing with
    | .error e => .error e
    | .ok (alg, key) => (lib.encode alg claims key).mapError .signFailed

/-- The interceptor of a configuration, in a call that is made when the clock says `now`. -/
def ofConfig (now : Option UInt64) : GrpcEgressInterceptor :=
  signing ((signToken lib config now).mapError BearerAuthError.toText)

/-- The key that a configuration signs with, and its algorithm. -/
def keyOf : Except String (Algorithm × κ) :=
  match config.secret.material with
  | .hs256 secret => .ok (.hs256, lib.fromSecret secret)
  | .rs256 privatePem => (lib.fromRsaPem privatePem).map fun key => (.rs256, key)

/-- A token is signed with the key of the configuration, whose kind decides the algorithm;
one of the two kinds is always there. -/
theorem signToken_eq (now : UInt64) :
    signToken lib config (some now) =
      ((keyOf lib config).bind fun key => lib.encode key.1 (claimsAt config now) key.2).mapError
        .signFailed := by
  unfold signToken keyOf BearerSecret.hs256Secret BearerSecret.rs256PrivatePem
  cases config.secret.material with
  | hs256 secret => rfl
  | rs256 privatePem =>
    dsimp only
    cases lib.fromRsaPem privatePem with
    | ok key => rfl
    | error e => rfl

/-- `token` was signed for the configuration at `time`: with its key, whose kind decides the
algorithm, and for its claims. It is issued at this second and expires when the lifetime is
over, or with the last second that the clock has, which is after it was issued unless that
was the last one. -/
structure SignedAt (time : UInt64) (token : String) : Prop where
  encoded : ∃ key exp, keyOf lib config = .ok key ∧
    exp.toNat = min (time.toNat + config.lifetimeSeconds.toNat) (UInt64.size - 1) ∧
    lib.encode key.1 ⟨config.issuer, config.audience, config.subject, time, exp⟩ key.2 =
      .ok token ∧
    (time.toNat + 1 < UInt64.size → time < exp)

theorem toNat_saturatingAddU64 (a b : UInt64) :
    (saturatingAddU64 a b).toNat = min (a.toNat + b.toNat) (UInt64.size - 1) := by
  unfold saturatingAddU64
  split
  · next fits =>
    rw [UInt64.toNat_add, Nat.mod_eq_of_lt fits, Nat.min_eq_left (Nat.le_sub_one_of_lt fits)]
  · next large =>
    have most : (18446744073709551615 : UInt64).toNat = UInt64.size - 1 := rfl
    rw [most, Nat.min_eq_right (Nat.le_trans (Nat.sub_le _ _) (Nat.not_lt.mp large))]

/-- A token expires after it was issued, as long as the clock has a second left. -/
theorem claimsAt_fresh {now : UInt64} (early : now.toNat + 1 < UInt64.size) :
    now < (claimsAt config now).exp := by
  have positive : config.lifetimeSeconds.toNat ≠ 0 := fun zero =>
    config.lifetimeSeconds_pos (UInt64.toNat_inj.mp zero)
  rw [UInt64.lt_iff_toNat_lt, claimsAt, toNat_saturatingAddU64, Nat.lt_min]
  exact ⟨Nat.lt_add_of_pos_right (Nat.pos_of_ne_zero positive), Nat.lt_sub_of_add_lt early⟩

variable {lib config}

/-- What the clock and the crate make of a token. -/
theorem signToken_ok_iff {now : Option UInt64} {token : String} :
    signToken lib config now = .ok token ↔
      ∃ time, now = some time ∧ SignedAt lib config time token := by
  cases now with
  | none => exact ⟨fun signed => (by cases signed), fun ⟨_, is, _⟩ => (by cases is)⟩
  | some now =>
    have encodes : signToken lib config (some now) = .ok token ↔
        ∃ key, keyOf lib config = .ok key ∧
          lib.encode key.1 (claimsAt config now) key.2 = .ok token := by
      rw [signToken_eq]
      cases keyOf lib config with
      | error e => exact ⟨fun signed => (by cases signed), fun ⟨_, is, _⟩ => (by cases is)⟩
      | ok key =>
        simp only [Except.bind, Except.ok.injEq, exists_eq_left']
        cases lib.encode key.1 (claimsAt config now) key.2 with
        | error e => exact ⟨fun signed => (by cases signed), fun is => (by cases is)⟩
        | ok token' =>
          exact ⟨fun signed => congrArg _ (Except.ok.inj signed),
            fun is => congrArg _ (Except.ok.inj is)⟩
    rw [encodes]
    constructor
    · rintro ⟨key, keyed, encoded⟩
      exact ⟨now, rfl, key, (claimsAt config now).exp, keyed, toNat_saturatingAddU64 _ _, encoded,
        claimsAt_fresh config⟩
    · rintro ⟨time, is, key, exp, keyed, expires, encoded, -⟩
      cases is
      have same : exp = saturatingAddU64 now config.lifetimeSeconds :=
        UInt64.toNat_inj.mp (expires.trans (toNat_saturatingAddU64 _ _).symm)
      rw [same] at encoded
      exact ⟨key, keyed, encoded⟩

/-! ## What a call is sent with -/

section

variable (lib config) (rules : MetadataRules)

/-- What the bearer interceptor makes of a call that comes to it as `seen`: nothing if the
call has an `authorization`, and else one text entry more, a token that was signed now. -/
inductive Credited (now : Option UInt64) (seen : PendingCall) : PendingCall → Prop
  | own : seen.metadata.holds "authorization" = true → Credited now seen seen
  | minted {time : UInt64} {token : String} :
      seen.metadata.holds "authorization" = false → now = some time →
      SignedAt lib config time token → rules.Built seen.metadata →
      rules.textError "authorization" ("Bearer " ++ token) = none →
      Credited now seen ⟨seen.path, seen.timeout,
        ⟨seen.metadata.text ++ [("authorization", "Bearer " ++ token)], seen.metadata.binary⟩⟩

/-- The options that a call to `path` is sent with: the interceptors before the bearer
interceptor, this one, and those after it, on the caller's options. The caller's entries come
first, then those of the interceptors, in their order. -/
structure Sends (first rest : GrpcEgressInterceptorChain) (now : Option UInt64) (path : String)
    (own sent : CallOptions) : Prop where
  passes : ∃ seen left last,
    first.foldlM (hooked rules) ⟨path, own.timeout, own.metadata⟩ = .ok seen ∧
    Credited lib config rules now seen left ∧ rest.foldlM (hooked rules) left = .ok last ∧
    sent = ⟨last.timeout, last.metadata⟩ ∧
    (∃ front, seen.metadata.text = own.metadata.text ++ front) ∧
    (∃ back, last.metadata.text = left.metadata.text ++ back) ∧
    last.metadata.binary = own.metadata.binary

/-- A call that comes to the bearer interceptor with no `authorization`, when no token can
be signed. -/
def Unminted (first : GrpcEgressInterceptorChain) (now : Option UInt64) (path : String)
    (own : CallOptions) : Prop :=
  ∃ seen, first.foldlM (hooked rules) ⟨path, own.timeout, own.metadata⟩ = .ok seen ∧
    seen.metadata.holds "authorization" = false ∧
    ∀ time token, now = some time → ¬SignedAt lib config time token

end

variable {rules : MetadataRules}

/-- A chain that lets a call through, seen from one of its interceptors. -/
theorem foldlM_around {first rest : GrpcEgressInterceptorChain} {one : GrpcEgressInterceptor}
    {call last : PendingCall} :
    (first ++ [one] ++ rest).foldlM (hooked rules) call = .ok last ↔
      ∃ seen left, first.foldlM (hooked rules) call = .ok seen ∧
        hooked rules seen one = .ok left ∧ rest.foldlM (hooked rules) left = .ok last := by
  simp only [List.foldlM_append, List.foldlM_cons, List.foldlM_nil, bind, Except.bind]
  cases first.foldlM (hooked rules) call with
  | error e => exact ⟨fun ran => (by cases ran), fun ⟨_, _, is, _⟩ => (by cases is)⟩
  | ok seen =>
    cases ranOne : hooked rules seen one with
    | error e =>
      simp only [ranOne]
      refine ⟨fun ran => (by cases ran), fun ⟨_, _, is, out, _⟩ => ?_⟩
      cases is
      cases ranOne.symm.trans out
    | ok left =>
      simp only [ranOne]
      refine ⟨fun ran => ⟨seen, left, rfl, ranOne, ran⟩, fun ⟨_, _, is, out, ran⟩ => ?_⟩
      cases is
      cases ranOne.symm.trans out
      exact ran

/-- What the hooks of a chain leave of a call is the call with entries added. -/
theorem onlyAdds_of_hooked {chain : GrpcEgressInterceptorChain} {call last : PendingCall}
    (ran : chain.foldlM (hooked rules) call = .ok last) :
    ∃ headers timeouts, OnlyAdds call last headers timeouts :=
  ⟨_, _, foldlM_ops (before_eq_hooked rules ▸ ran) ▸ ops_onlyAdds _ _⟩

section

variable (known : rules.keyError "authorization" = none)
include known

/-- What the interceptor does to a call that comes to it. -/
theorem hooked_ofConfig (now : Option UInt64) (seen : PendingCall) :
    hooked rules seen (ofConfig lib config now) =
      if seen.metadata.holds "authorization" then .ok seen
      else
        match signToken lib config now with
        | .error _ => .error (.transport seen.path .internal "failed to mint bearer token")
        | .ok token =>
          let added := seen.addHeader rules "authorization" ("Bearer " ++ token)
          added.1.map fun _ => added.2 := by
  unfold hooked ofConfig signing
  dsimp only
  cases carried : seen.metadata.holds "authorization" with
  | true =>
    rw [run_of_carried known _ carried]
    rfl
  | false =>
    have missing : (seen.view rules).hasHeader authorizationHeader = false :=
      (hasHeader_eq known seen).trans carried
    simp only [beforeCall, Hook.run, missing, Bool.false_eq_true, if_false]
    cases signToken lib config now with
    | error e => rfl
    | ok token => rfl

/-- A call leaves the interceptor as it should. -/
theorem hooked_ofConfig_ok_iff {now : Option UInt64} {seen left : PendingCall} :
    hooked rules seen (ofConfig lib config now) = .ok left ↔
      Credited lib config rules now seen left := by
  rw [hooked_ofConfig known]
  cases carried : seen.metadata.holds "authorization" with
  | true =>
    rw [if_pos rfl]
    constructor
    · intro is
      cases is
      exact .own carried
    · intro credited
      cases credited with
      | own => rfl
      | minted missing => cases carried.symm.trans missing
  | false =>
    rw [if_neg Bool.false_ne_true]
    constructor
    · intro left
      cases signed : signToken lib config now with
      | error e =>
        rw [signed] at left
        cases left
      | ok token =>
        obtain ⟨time, timed, fresh⟩ := signToken_ok_iff.mp signed
        simp only [signed] at left
        cases answered : (seen.addHeader rules "authorization" ("Bearer " ++ token)).1 with
        | error e =>
          rw [answered] at left
          cases left
        | ok done =>
          rw [answered, addHeader_added answered] at left
          cases left
          obtain ⟨built, valid⟩ := addHeader_ok_iff.mp answered
          exact .minted carried timed fresh built valid
    · intro credited
      cases credited with
      | own held => cases carried.symm.trans held
      | minted _ timed fresh built valid =>
        have answered := addHeader_ok_iff.mpr ⟨built, valid⟩
        simp only [signToken_ok_iff.mpr ⟨_, timed, fresh⟩, answered, addHeader_added answered]
        rfl

/-- The options of a call that is sent. -/
theorem optionsSent_ok_iff {first rest : GrpcEgressInterceptorChain} {now : Option UInt64}
    {path : String} {own sent : CallOptions} :
    optionsSent rules (first ++ [ofConfig lib config now] ++ rest) path own = .ok sent ↔
      Sends lib config rules first rest now path own sent := by
  unfold optionsSent
  constructor
  · intro ran
    cases whole : (first ++ [ofConfig lib config now] ++ rest).foldlM (hooked rules)
        ⟨path, own.timeout, own.metadata⟩ with
    | error e =>
      rw [whole] at ran
      cases ran
    | ok last =>
      rw [whole] at ran
      cases ran
      obtain ⟨seen, left, ranFirst, ranOne, ranRest⟩ := foldlM_around.mp whole
      have credited := (hooked_ofConfig_ok_iff known).mp ranOne
      obtain ⟨front, _, adds⟩ := onlyAdds_of_hooked ranFirst
      obtain ⟨back, _, addsLater⟩ := onlyAdds_of_hooked ranRest
      have binary : left.metadata.binary = seen.metadata.binary := by
        cases credited with
        | own | minted => rfl
      exact ⟨seen, left, last, ranFirst, credited, ranRest, rfl, ⟨front, adds.text⟩,
        ⟨back, addsLater.text⟩, addsLater.binary.trans (binary.trans adds.binary)⟩
  · rintro ⟨seen, left, last, ranFirst, credited, ranRest, rfl, -⟩
    have whole := foldlM_around.mpr
      ⟨seen, left, ranFirst, (hooked_ofConfig_ok_iff known).mpr credited, ranRest⟩
    rw [whole]
    rfl

theorem optionsSent_unminted {first rest : GrpcEgressInterceptorChain} {now : Option UInt64}
    {path : String} {own : CallOptions} (unminted : Unminted lib config rules first now path own) :
    optionsSent rules (first ++ [ofConfig lib config now] ++ rest) path own =
      .error (.transport path .internal "failed to mint bearer token") := by
  obtain ⟨seen, ranFirst, missing, unsigned⟩ := unminted
  obtain ⟨_, _, adds⟩ := onlyAdds_of_hooked ranFirst
  have samePath : seen.path = path := adds.path
  have refused : hooked rules seen (ofConfig lib config now) =
      .error (.transport path .internal "failed to mint bearer token") := by
    rw [hooked_ofConfig known, missing, if_neg Bool.false_ne_true, samePath]
    cases signed : signToken lib config now with
    | error e => rfl
    | ok token =>
      obtain ⟨time, timed, fresh⟩ := signToken_ok_iff.mp signed
      exact absurd fresh (unsigned time token timed)
  unfold optionsSent
  simp only [List.foldlM_append, List.foldlM_cons, bind, Except.bind, ranFirst, refused]
  rfl

end

/-- A pass, from the caller's options, through a chain with the bearer interceptor in it. -/
structure BearsToken {ε ρ : Type} (lib : Jsonwebtoken κ) (config : BearerEgressConfig)
    (rules : MetadataRules) (first rest : GrpcEgressInterceptorChain) (now : Option UInt64)
    (path : String) (send : CallOptions → ε) (own : CallOptions) (out : Intercepted ε ρ) :
    Prop where
  carried : ∀ request ∈ out.log.filterMap Happening.asSent,
    ∃ o, request = send o ∧ Sends lib config rules first rest now path own o
  sent : ∀ o, Sends lib config rules first rest now path own o →
    out.log.filterMap Happening.asSent = [send o]
  unminted : Unminted lib config rules first now path own →
    out.result = .error (.transport path .internal "failed to mint bearer token") ∧
    out.log.filterMap Happening.asSent = []

theorem replied_bearsToken {ε ρ : Type} (known : rules.keyError "authorization" = none)
    (first rest : GrpcEgressInterceptorChain) (now : Option UInt64) (path : String)
    (kind : CallKind) (send : CallOptions → ε) (inner : ε → Except CallError (CallResponse ρ))
    (own : CallOptions) :
    BearsToken lib config rules first rest now path send own
      (replied rules (first ++ [ofConfig lib config now] ++ rest) ⟨path, kind⟩ send inner own) := by
  have once := @replied_once ε ρ rules (first ++ [ofConfig lib config now] ++ rest) path kind send
    inner own
  refine ⟨fun request member => ?_, fun o sends => ?_, fun unminted => ?_⟩
  · cases ran : optionsSent rules (first ++ [ofConfig lib config now] ++ rest) path own with
    | error e =>
      rw [(once.refused e ran).2.1] at member
      cases member
    | ok o =>
      rw [(once.sent o ran).2] at member
      exact ⟨o, List.mem_singleton.mp member, (optionsSent_ok_iff known).mp ran⟩
  · exact (once.sent o ((optionsSent_ok_iff known).mpr sends)).2
  · obtain ⟨result, unsent, -⟩ := once.refused _ (optionsSent_unminted known unminted)
    exact ⟨result, unsent⟩

theorem mintFailed_final (path : String) :
    (stdRetryClassifier.classify
      (.error (.transport path .internal "failed to mint bearer token"))).retries = false := rfl

end BearerEgressInterceptor

open BearerEgressInterceptor GrpcRetryClient in
/-- A retried call through interceptors one of which is the bearer interceptor, with any
others around it, which may change from one attempt to the next. Each attempt is a pass of
its own, from the caller's metadata. It sends what the interceptors before this one make of
that, with the `authorization` that is there already or else with one token that was signed
for this attempt, with the configured key and claims, issued at its own time and expiring
after that, and then what the interceptors after it make of this. If no token can be signed
the attempt sends nothing, no other follows it, and the call fails with that. -/
theorem token_of_each_attempt {υ μ ρ κ : Type} (lib : Jsonwebtoken κ)
    (config : BearerEgressConfig) (rules : MetadataRules)
    (known : rules.keyError "authorization" = none) (client : GrpcRetryClient υ)
    (standard : client.classifier = stdRetryClassifier) (env : Surroundings υ)
    (clock : Nat → Option UInt64) (first rest : Nat → GrpcEgressInterceptorChain) :
    let chains i := first i ++ [ofConfig lib config (clock i)] ++ rest i
    (∀ (payload : Payload μ) (path : String)
      (bare : Nat → CallRequest μ → Except CallError (CallResponse ρ)) (request : CallRequest μ),
      payload.RoundTrips →
      let through i sent := InterceptedTransport.call rules (chains i) path (bare i) sent
      let run := client.call env payload path (fun i sent => (through i sent).result) request
      let own (made : Nat × Option Duration) := ⟨made.2, request.options.metadata⟩
      run.passes through = run.attempts.map (fun made =>
        (made.1, through made.1 ⟨request.message, own made⟩)) ∧
      ∀ made ∈ run.attempts,
        BearsToken lib config rules (first made.1) (rest made.1) (clock made.1) path
          (fun options => ⟨request.message, options⟩) (own made)
          (through made.1 ⟨request.message, own made⟩) ∧
        (Unminted lib config rules (first made.1) (clock made.1) path (own made) →
          run.result = some (.error (.transport path .internal "failed to mint bearer token")) ∧
          run.attempts.length = made.1 + 1)) ∧
    ∀ (bare : Nat → CallRawRequest → Except CallError (CallResponse ρ))
      (request : CallRawRequest),
      let through i sent := InterceptedTransport.callRaw rules (chains i) (bare i) sent
      let run := client.callRaw env (fun i sent => (through i sent).result) request
      let own (made : Nat × Option Duration) := ⟨made.2, request.options.metadata⟩
      run.passes through = run.attempts.map (fun made =>
        (made.1, through made.1 ⟨request.path, request.message, own made⟩)) ∧
      ∀ made ∈ run.attempts,
        BearsToken lib config rules (first made.1) (rest made.1) (clock made.1) request.path
          (fun options => ⟨request.path, request.message, options⟩) (own made)
          (through made.1 ⟨request.path, request.message, own made⟩) ∧
        (Unminted lib config rules (first made.1) (clock made.1) request.path (own made) →
          run.result =
            some (.error (.transport request.path .internal "failed to mint bearer token")) ∧
          run.attempts.length = made.1 + 1) := by
  intro chains
  constructor
  · intro payload path bare request roundTrips through run own
    refine ⟨RetryOutcome.passes_of_handed through
      (client.call_handed env roundTrips path _ request), fun made member => ?_⟩
    have bears : BearsToken lib config rules (first made.1) (rest made.1) (clock made.1) path
        (fun options => ⟨request.message, options⟩) (own made)
        (through made.1 ⟨request.message, own made⟩) :=
      replied_bearsToken known (first made.1) (rest made.1) (clock made.1) path .unary _ _ _
    refine ⟨bears, fun unminted => ?_⟩
    refine client.call_final roundTrips member (bears.unminted unminted).1 ?_
    rw [standard]
    exact mintFailed_final path
  · intro bare request through run own
    refine ⟨RetryOutcome.passes_of_handed through
      (client.callRaw_handed env _ request), fun made member => ?_⟩
    have bears : BearsToken lib config rules (first made.1) (rest made.1) (clock made.1)
        request.path (fun options => ⟨request.path, request.message, options⟩) (own made)
        (through made.1 ⟨request.path, request.message, own made⟩) :=
      replied_bearsToken known (first made.1) (rest made.1) (clock made.1) request.path .unary
        _ _ _
    refine ⟨bears, fun unminted => ?_⟩
    refine client.callRaw_final member (bears.unminted unminted).1 ?_
    rw [standard]
    exact mintFailed_final request.path

namespace SignedCalls

/-- A crate that reads no private key, and signs everything with the second it was issued. -/
def lib : Jsonwebtoken Unit where
  fromSecret _ := ()
  fromRsaPem _ := .error "not a key"
  encode _ claims _ := .ok (if claims.iat = 102 then "signed at 102" else "signed")

theorem some_key : (SecretMaterial.hs256 [7]).bytes ≠ [] := by decide

theorem some_pem : (SecretMaterial.rs256 [7]).bytes ≠ [] := by decide

theorem some_name : "edge" ≠ "" := by decide

theorem minute_pos : (60 : UInt64) ≠ 0 := by decide

/-- Tokens of a minute. -/
def config : BearerEgressConfig :=
  ⟨⟨.hs256 [7], some_key⟩, "edge", "edge", "edge", 60, some_name, some_name, some_name, minute_pos⟩

/-- A call with a header, a second passing between its attempts. -/
def request : CallRawRequest := ⟨"/test.Peer/Echo", [], ⟨none, ⟨[("tenant", "7")], []⟩⟩⟩

@[inherit_doc request]
def clock (i : Nat) : Option UInt64 := some (100 + i.toUInt64)

/-- A peer that is not there. -/
def bare (_ : Nat) (_ : CallRawRequest) : Except CallError (CallResponse Unit) :=
  .error (.transport "/test.Peer/Echo" .unavailable "")

/-- An attempt of the call. -/
def through (i : Nat) (sent : CallRawRequest) : Intercepted CallRawRequest (CallResponse Unit) :=
  InterceptedTransport.callRaw HeadersExample.rules
    ([] ++ [BearerEgressInterceptor.ofConfig lib config (clock i)] ++ []) (bare i) sent

end SignedCalls

open SignedCalls BearerEgressInterceptor in
/-- `token_of_each_attempt` for the third attempt of that call. -/
theorem token_of_each_attempt_third :
    (through 2 request).log.filterMap Happening.asSent = [⟨"/test.Peer/Echo", [],
      ⟨none, ⟨[("tenant", "7"), ("authorization", "Bearer signed at 102")], []⟩⟩⟩] := by
  have passes := (@token_of_each_attempt Unit Unit Unit Unit lib config HeadersExample.rules
    (by decide) (OneAttempt.client 3 u32_three_ne_zero) rfl OneAttempt.stopped clock (fun _ => [])
    (fun _ => [])).2 bare request
  have bears := (passes.2 (2, none) (by decide)).1
  have signed : SignedAt lib config 102 "signed at 102" :=
    ⟨(.hs256, ()), 162, rfl, by decide, rfl, fun _ => by decide⟩
  exact bears.sent ⟨none, ⟨[("tenant", "7"), ("authorization", "Bearer signed at 102")], []⟩⟩
    ⟨_, _, _, rfl, .minted (by decide) rfl signed ⟨by decide, by decide⟩ rfl, rfl, rfl,
      ⟨[], rfl⟩, ⟨[], rfl⟩, rfl⟩

/-! ## A key that cannot be read -/

namespace RetryInput

variable {υ ε ρ : Type}

/-- A call that has time left begins with an attempt. -/
theorem first_attempt {c : RetryInput υ ε ρ}
    (inTime : ∀ budget, c.totalBudget = some budget → (c.elapsedBefore 0).nanos < budget.nanos) :
    ∃ timeout, (0, timeout) ∈ c.runWithRetry.attempts := by
  have unspent : ¬ SpentBy c.totalBudget (c.elapsedBefore 0).nanos :=
    fun ⟨budget, budgeted, spent⟩ => absurd (inTime budget budgeted) (Nat.not_lt.mpr spent)
  obtain ⟨n, -, -, attempts, -⟩ := c.attempts_pauses
  cases n with
  | zero =>
    have unattempted : c.runWithRetry.attempts.length = 0 := by rw [attempts]; rfl
    exact absurd (not_due_iff.mp (c.runWithRetry_ending.no_attempt_iff.mp unattempted)) unspent
  | succ n =>
    rw [attempts]
    exact ⟨_, List.mem_map.mpr ⟨0, List.mem_range.mpr (Nat.succ_pos n), rfl⟩⟩

end RetryInput

/-- A raw call with no `authorization` and some time, whose attempts come to the bearer
interceptor first. -/
structure BearerCall (υ μ σ τ ρ : Type) {κ : Type} (lib : Jsonwebtoken κ)
    (config : BearerEgressConfig) (rules : MetadataRules) where
  made : LogicalCall υ μ σ τ (CallResponse ρ)
  request : CallRawRequest
  /-- What the clock says at each attempt. -/
  now : Nat → Option UInt64
  /-- The interceptors after it. -/
  rest : Nat → GrpcEgressInterceptorChain
  /-- The client below the interceptors. -/
  wire : Nat → CallRawRequest → Except CallError (CallResponse ρ)
  raw : made.call = .callRaw request
  answers : ∀ i sent, made.bare i (.callRaw sent) =
    (InterceptedTransport.callRaw rules
      (BearerEgressInterceptor.ofConfig lib config (now i) :: rest i) (wire i) sent).result
  uncarried : request.options.metadata.holds "authorization" = false
  inTime : ∀ budget, request.options.timeout = some budget →
    (made.env.elapsedBefore 0).nanos < budget.nanos

namespace BearerCall

open BearerEgressInterceptor GrpcRetryClient

variable {υ μ σ τ ρ κ : Type} {lib : Jsonwebtoken κ} {config : BearerEgressConfig}
  {rules : MetadataRules}

/-- One attempt of the call. -/
def pass (c : BearerCall υ μ σ τ ρ lib config rules) (i : Nat) (sent : CallRawRequest) :
    Intercepted CallRawRequest (CallResponse ρ) :=
  InterceptedTransport.callRaw rules (ofConfig lib config (c.now i) :: c.rest i) (c.wire i) sent

/-- No token is signed with a key that cannot be read. -/
theorem not_signedAt_of_unreadable {e : String} (unreadable : keyOf lib config = .error e)
    (time : UInt64) (token : String) : ¬SignedAt lib config time token := by
  rintro ⟨key, exp, keyed, -⟩
  cases unreadable.symm.trans keyed

/-- The call ends with its first attempt, which sends nothing. -/
theorem unmintable (known : rules.keyError "authorization" = none) {e : String}
    (unreadable : keyOf lib config = .error e) {client : GrpcResilientClient υ}
    (standard : client.retry.classifier = stdRetryClassifier)
    (c : BearerCall υ μ σ τ ρ lib config rules) :
    client.answer c.made =
      .error (.transport c.request.path .internal "failed to mint bearer token") ∧
    ∃ sent, client.attempted c.made = [(0, .callRaw sent)] ∧
      (c.pass 0 sent).log.filterMap Happening.asSent = [] := by
  let inner : Nat → CallRawRequest → Except CallError (CallResponse ρ) :=
    fun i sent => c.made.bare i (.callRaw sent)
  obtain ⟨timeout, first⟩ : ∃ timeout,
      (0, timeout) ∈ (client.retry.callRaw c.made.env inner c.request).attempts :=
    @RetryInput.first_attempt _ _ _ (client.retry.rawInput c.made.env inner c.request) c.inTime
  let sent : CallRawRequest :=
    ⟨c.request.path, c.request.message, ⟨timeout, c.request.options.metadata⟩⟩
  have bears : BearsToken lib config rules [] (c.rest 0) (c.now 0) sent.path
      (fun options => ⟨sent.path, sent.message, options⟩) sent.options (c.pass 0 sent) :=
    replied_bearsToken known [] (c.rest 0) (c.now 0) sent.path .unary _ (c.wire 0) sent.options
  obtain ⟨result, unsent⟩ := bears.unminted
    ⟨_, rfl, c.uncarried, fun time token _ => not_signedAt_of_unreadable unreadable time token⟩
  have answered : inner 0 sent =
      .error (.transport c.request.path .internal "failed to mint bearer token") :=
    (c.answers 0 sent).trans result
  obtain ⟨final, one⟩ := client.retry.callRaw_final first answered
    (by rw [standard]; exact mintFailed_final c.request.path)
  have made : client.retry.make c.made.env c.made.payload c.made.bare c.made.call =
      (client.retry.callRaw c.made.env inner c.request).translate .callRaw id := by
    rw [c.raw]
    rfl
  have only : (client.retry.callRaw c.made.env inner c.request).attempts = [(0, timeout)] := by
    obtain ⟨a, alone⟩ := List.length_eq_one_iff.mp one
    rw [alone] at first ⊢
    rw [List.mem_singleton.mp first]
  refine ⟨?_, sent, ?_, unsent⟩
  · have answers : some (client.answer c.made) =
        (client.retry.make c.made.env c.made.payload c.made.bare c.made.call).result :=
      Option.some_get _
    rw [made, RetryOutcome.translate, final] at answers
    exact Option.some.inj answers
  · show (client.retry.make c.made.env c.made.payload c.made.bare c.made.call).handed = _
    rw [made, RetryOutcome.translate_handed, client.retry.callRaw_handed, only]
    rfl

end BearerCall

open BearerEgressInterceptor GrpcResilientClient in
/-- Calls through a resilient client whose bearer interceptor has a key that cannot be read.
None of them sends anything; each fails at its first attempt, with the failure to mint a
token or because the circuit is open; and `failure_threshold` of them leave the circuit
open, though no peer has failed. -/
theorem unmintable_token_opens_circuit {υ μ σ τ ρ κ : Type} (client : GrpcResilientClient υ)
    (documented : client.breaker.transition.Documented)
    (enabled : client.breaker.config.enabled = true)
    (standard : client.retry.classifier = stdRetryClassifier) (lib : Jsonwebtoken κ)
    (config : BearerEgressConfig) (rules : MetadataRules)
    (known : rules.keyError "authorization" = none) (e : String)
    (unreadable : keyOf lib config = .error e) (s : Around (List (EgressCall μ σ τ)))
    (calls : List (BearerCall υ μ σ τ ρ lib config rules)) :
    (∀ c ∈ calls, ∃ sent, client.attempted c.made = [(0, .callRaw sent)] ∧
      (c.pass 0 sent).log.filterMap Happening.asSent = []) ∧
    (∀ step ∈ client.run s (calls.map BearerCall.made),
      step.result =
        .error (.transport step.made.call.path .internal "failed to mint bearer token") ∨
      step.result = .error (.transport step.made.call.path .unavailable
        "grpc-breaker: circuit open, request short-circuited")) ∧
    (client.breaker.config.failureThreshold.toNat ≤ calls.length →
      ∃ since, (client.after s (calls.map BearerCall.made)).node.state = .opened since) := by
  have fails : ∀ c ∈ calls.map BearerCall.made, CountedFailure (client.answer c) := by
    intro c member
    obtain ⟨call, -, rfl⟩ := List.mem_map.mp member
    rw [(call.unmintable known unreadable standard).1]
    exact .inr (.inr rfl)
  refine ⟨fun c _ => (c.unmintable known unreadable standard).2, fun step member => ?_,
    fun enough => ?_⟩
  · have one := run_oneCall enabled standard _ s step member
    obtain ⟨call, -, is⟩ := List.mem_map.mp (mem_of_run member)
    rcases client.breaker.admitCall_cases documented step.made.call.path step.before.node
      step.made.clock.admitted with ⟨_, _, -, -, asked, -⟩ | ⟨asked, -⟩ | ⟨_, _, -, -, asked, -⟩
    · exact .inr (one.refused _ (congrArg Prod.snd asked)).1
    · refine .inl ((one.admitted (congrArg Prod.snd asked)).1.trans ?_)
      rw [← is, call.raw]
      exact (call.unmintable known unreadable standard).1
    · refine .inl ((one.admitted (congrArg Prod.snd asked)).1.trans ?_)
      rw [← is, call.raw]
      exact (call.unmintable known unreadable standard).1
  · refine opened_of_dead documented enabled s fails ?_
    rw [List.length_map]
    exact Nat.le_trans (patience_le client.breaker.config.one_le_failureThreshold s.node) enough

namespace UnreadableKey

open SignedCalls BearerEgressInterceptor

/-- A configuration with a private key. -/
def config : BearerEgressConfig := { SignedCalls.config with secret := ⟨.rs256 [7], some_pem⟩ }

/-- A peer that answers. -/
def wire (_ : Nat) (_ : CallRawRequest) : Except CallError (CallResponse Unit) :=
  .ok ⟨(), Metadata.empty.view, Metadata.empty.view⟩

/-- The same, behind the interceptor. -/
def bare (i : Nat) : EgressCall Unit Unit Unit → Except CallError (CallResponse Unit)
  | .callRaw sent =>
    (InterceptedTransport.callRaw HeadersExample.rules [ofConfig lib config (clock i)] (wire i)
      sent).result
  | _ => .error (.encode "")

/-- The call to that peer. -/
def unsigned : BearerCall Unit Unit Unit Unit Unit lib config HeadersExample.rules where
  made := ⟨.callRaw request, ⟨0, 1⟩, OneAttempt.stopped, OneAttempt.empty, bare⟩
  request := request
  now := clock
  rest _ := []
  wire := wire
  raw := rfl
  answers _ _ := rfl
  uncarried := rfl
  inTime := nofun

end UnreadableKey

open UnreadableKey in
/-- `unmintable_token_opens_circuit` for that call and a threshold of one. -/
theorem unmintable_token_opens_circuit_one :
    (∃ sent, Outage.client.attempted unsigned.made = [(0, .callRaw sent)] ∧
      (unsigned.pass 0 sent).log.filterMap Happening.asSent = []) ∧
    ∃ since, (Outage.client.after RateLimited.fresh ([unsigned].map BearerCall.made)).node.state =
      .opened since := by
  obtain ⟨nothing, -, opened⟩ := unmintable_token_opens_circuit Outage.client
    BreakerTransition.threeState_documented rfl rfl SignedCalls.lib config HeadersExample.rules
    (by decide) "not a key" rfl RateLimited.fresh [unsigned]
  exact ⟨nothing unsigned List.mem_cons_self, opened (by decide)⟩

end GrpcEgress
