import GrpcEgress.Identity.Context
import GrpcEgress.Resilient.Stack

/-!
# An identity above or below the resilient stack

A view can be made of a resilient client, and a resilient client can be made of a view.
Above the stack the headers of the identity are added once for a logical call, before the
breaker is asked. Below it they are added by every attempt, to the caller's own metadata
again and again.

1. `make_translate`: what a layer below the retry loop does to the metadata of every attempt
   can be done before the loop;
2. `logicalAbove_eq_below`: one call whose headers can be added;
3. `identity_above_or_below`: whole runs, and the calls whose headers cannot be added.
-/

namespace GrpcEgress

/-- The call with other metadata. -/
def EgressCall.carrying {μ σ τ : Type} (metadata : Metadata) (c : EgressCall μ σ τ) :
    EgressCall μ σ τ := c.withOptions ⟨c.options.timeout, metadata⟩

theorem EgressCall.carrying_own {μ σ τ : Type} (c : EgressCall μ σ τ) :
    c.carrying c.options.metadata = c := c.withOptions_self

theorem RetryOutcome.translate_translate {ε ε' ε'' ρ ρ' ρ'' : Type} (f : ε → ε') (g : ρ → ρ')
    (f' : ε' → ε'') (g' : ρ' → ρ'') (r : RetryOutcome ε ρ) :
    (r.translate f g).translate f' g' = r.translate (f' ∘ f) (g' ∘ g) := by
  simp only [translate, List.map_map, Option.map_map]
  congr 2
  · funext e
    cases e with
    | attempt i timeout sent =>
      simp only [Function.comp_apply, RetryEvent.mapSent, List.map_map]
    | pause i sleepFor => rfl
  · funext result
    cases result <;> rfl

/-! ## A layer below the retry loop -/

namespace GrpcRetryClient

variable {υ μ σ τ ρ ρ' : Type} {client : GrpcRetryClient υ} {env : Surroundings υ}
  {payload : Payload μ}

/-- The request with other metadata. -/
def carryRequest (metadata : Metadata) (request : CallRequest μ) : CallRequest μ :=
  ⟨request.message, ⟨request.options.timeout, metadata⟩⟩

@[inherit_doc carryRequest]
def carryRawRequest (metadata : Metadata) (request : CallRawRequest) : CallRawRequest :=
  ⟨request.path, request.message, ⟨request.options.timeout, metadata⟩⟩

theorem call_translate (g : ρ → ρ') {metadata : Metadata} {path : String}
    {request : CallRequest μ} {through : Nat → CallRequest μ → Except CallError ρ}
    {inner : Nat → CallRequest μ → Except CallError ρ'}
    (passes : ∀ i message timeout, inner i ⟨message, ⟨timeout, metadata⟩⟩ =
      (through i ⟨message, ⟨timeout, request.options.metadata⟩⟩).map g) :
    client.call env payload path inner (carryRequest metadata request) =
      (client.call env payload path through request).translate (carryRequest metadata) g := by
  unfold call
  by_cases one : client.config.maxAttempts.toNat ≤ 1
  · rw [if_pos one, if_pos one]
    exact congrArg (fun answer => RetryOutcome.mk _ (some answer)) (passes 0 _ _)
  · rw [if_neg one, if_neg one]
    rw [show (carryRequest metadata request).message = request.message from rfl]
    cases payload.encode request.message with
    | error reason => rfl
    | ok encoded =>
      apply RetryInput.runWithRetry_translate
      constructor
      case sent =>
        intro i timeout
        simp only [retryInput, typedAttempt, carryRequest]
        split <;> rfl
      case result =>
        intro i timeout
        simp only [retryInput, typedAttempt, carryRequest]
        split
        · exact passes i _ _
        · rfl
      all_goals rfl

theorem callRaw_translate_carrying (g : ρ → ρ') {metadata : Metadata} {request : CallRawRequest}
    {through : Nat → CallRawRequest → Except CallError ρ}
    {inner : Nat → CallRawRequest → Except CallError ρ'}
    (passes : ∀ i timeout, inner i ⟨request.path, request.message, ⟨timeout, metadata⟩⟩ =
      (through i ⟨request.path, request.message, ⟨timeout, request.options.metadata⟩⟩).map g) :
    client.callRaw env inner (carryRawRequest metadata request) =
      (client.callRaw env through request).translate (carryRawRequest metadata) g := by
  apply RetryInput.runWithRetry_translate
  constructor
  case sent => exact fun i timeout => rfl
  case result => exact fun i timeout => passes i timeout
  all_goals rfl

theorem forward_translate {ε : Type} (f : ε → ε) (g : ρ → ρ') {timeout : Option Duration}
    {sent : ε} {through : Nat → ε → Except CallError ρ} {inner : Nat → ε → Except CallError ρ'}
    (passes : inner 0 (f sent) = (through 0 sent).map g) :
    forward inner timeout (f sent) = (forward through timeout sent).translate f g :=
  congrArg (fun answer => RetryOutcome.mk _ (some answer)) passes

/-- A client that answers a call with other metadata as `through` answers it with the
caller's: the loop over it, on the call with the other metadata, is the loop over `through`
on the caller's call. -/
theorem make_translate (g : ρ → ρ') (metadata : Metadata)
    (through : Nat → EgressCall μ σ τ → Except CallError ρ)
    {inner : Nat → EgressCall μ σ τ → Except CallError ρ'} (c : EgressCall μ σ τ)
    (passes : ∀ i sent, sent.path = c.path → sent.options.metadata = c.options.metadata →
      inner i (sent.carrying metadata) = (through i sent).map g) :
    client.make env payload inner (c.carrying metadata) =
      (client.make env payload through c).translate (EgressCall.carrying metadata) g := by
  cases c with
  | call path request =>
    have same := @call_translate _ _ _ _ client env payload g metadata path request
      (fun i sent => through i (.call path sent)) (fun i sent => inner i (.call path sent))
      fun i message timeout =>
        passes i (.call path ⟨message, ⟨timeout, request.options.metadata⟩⟩) rfl rfl
    show (client.call env payload path _ (carryRequest metadata request)).translate _ _ = _
    rw [same]
    simp only [make, RetryOutcome.translate_translate]
    rfl
  | callRaw request =>
    have same := @callRaw_translate_carrying _ _ _ client env g metadata request
      (fun i sent => through i (.callRaw sent)) (fun i sent => inner i (.callRaw sent))
      fun i timeout => passes i (.callRaw ⟨request.path, request.message,
        ⟨timeout, request.options.metadata⟩⟩) rfl rfl
    show (client.callRaw env _ (carryRawRequest metadata request)).translate _ _ = _
    rw [same]
    simp only [make, RetryOutcome.translate_translate]
    rfl
  | callServerStream | callClientStream | callBidiStream =>
    exact forward_translate (EgressCall.carrying metadata) g (passes 0 _ rfl rfl)
  | callRawServerStream | callRawClientStream | callRawBidiStream =>
    exact forward_translate (EgressCall.carrying metadata) g (passes 0 _ rfl rfl)

/-- Every call of a run has the caller's path and metadata. -/
theorem make_handed_own {inner : Nat → EgressCall μ σ τ → Except CallError ρ}
    {c : EgressCall μ σ τ} {i : Nat} {sent : EgressCall μ σ τ}
    (handed : (i, sent) ∈ (client.make env payload inner c).handed) :
    sent.path = c.path ∧ sent.options.metadata = c.options.metadata := by
  cases c with
  | call path request =>
    simp only [make, RetryOutcome.translate_handed, List.mem_map] at handed
    obtain ⟨⟨j, again⟩, handed, same⟩ := handed
    cases same
    unfold call at handed
    split at handed
    · cases List.mem_singleton.mp handed
      exact ⟨rfl, rfl⟩
    · split at handed
      · cases handed
      · obtain ⟨timeout, -, closure⟩ := RetryInput.attempt_of_handed handed
        simp only [retryInput, typedAttempt] at closure
        split at closure
        · cases List.mem_singleton.mp closure
          exact ⟨rfl, rfl⟩
        · cases closure
  | callRaw request =>
    simp only [make, RetryOutcome.translate_handed, List.mem_map] at handed
    obtain ⟨⟨j, again⟩, handed, same⟩ := handed
    cases same
    obtain ⟨timeout, -, closure⟩ := RetryInput.attempt_of_handed handed
    cases List.mem_singleton.mp closure
    exact ⟨rfl, rfl⟩
  | callServerStream | callClientStream | callBidiStream =>
    cases List.mem_singleton.mp handed
    exact ⟨rfl, rfl⟩
  | callRawServerStream | callRawClientStream | callRawBidiStream =>
    cases List.mem_singleton.mp handed
    exact ⟨rfl, rfl⟩

/-- A call is refused if each of its attempts is. -/
theorem make_of_refused {inner : Nat → EgressCall μ σ τ → Except CallError ρ}
    {c : EgressCall μ σ τ} {e : CallError}
    (refused : ∀ i sent, sent.path = c.path → sent.options.metadata = c.options.metadata →
      inner i sent = .error e) :
    ∃ failure, (client.make env payload inner c).result = some (.error failure) := by
  -- The same loop over a client that has no response to give.
  have same : client.make env payload inner (c.carrying c.options.metadata) = _ :=
    make_translate Empty.elim c.options.metadata (fun _ _ => (.error e : Except CallError Empty))
      c fun i sent path own => by
        rw [← own, sent.carrying_own]
        exact refused i sent path own
  rw [c.carrying_own] at same
  have answers := client.make_answers env payload (fun _ _ => (.error e : Except _ Empty)) c
  obtain ⟨answer, is⟩ := Option.isSome_iff_exists.mp answers
  rw [same, RetryOutcome.translate, is]
  cases answer with
  | error failure => exact ⟨failure, rfl⟩
  | ok none => cases none

end GrpcRetryClient

/-! ## The view -/

namespace ContextTransport

variable {S μ σ τ ρ : Type} {rules : MetadataRules} {view : ContextTransport}
  {inner : Client S μ σ τ ρ}

/-- What the view makes of a call. -/
def amended (rules : MetadataRules) (view : ContextTransport) (c : EgressCall μ σ τ) :
    Except CallError (EgressCall μ σ τ) :=
  (addHeaders rules view c.path c.options).map fun options => c.withOptions options

theorem make_of_amended {c sent : EgressCall μ σ τ} (made : amended rules view c = .ok sent)
    (s : S) : make rules view inner c s = inner sent s := by
  unfold amended at made
  rw [make_eq_withHeaders, withHeaders]
  cases added : addHeaders rules view c.path c.options with
  | error e =>
    rw [added] at made
    cases made
  | ok options =>
    rw [added] at made
    cases made
    rfl

theorem make_of_refused {c : EgressCall μ σ τ} {e : CallError}
    (refused : amended rules view c = .error e) (s : S) :
    make rules view inner c s = (s, .error e) := by
  unfold amended at refused
  rw [make_eq_withHeaders, withHeaders]
  cases added : addHeaders rules view c.path c.options with
  | error e =>
    rw [added] at refused
    cases refused
    rfl
  | ok options =>
    rw [added] at refused
    cases refused

/-- The view looks at the path and the metadata of a call, and at most changes its
metadata. -/
theorem amended_cases (rules : MetadataRules) (view : ContextTransport) (c : EgressCall μ σ τ) :
    (∃ metadata, ∀ sent : EgressCall μ σ τ, sent.path = c.path →
      sent.options.metadata = c.options.metadata →
      amended rules view sent = .ok (sent.carrying metadata)) ∨
    ∃ e, ∀ sent : EgressCall μ σ τ, sent.path = c.path →
      sent.options.metadata = c.options.metadata →
      amended rules view sent = .error (invalidHeader c.path e) := by
  unfold amended addHeaders
  cases view.headers.isEmpty with
  | true => exact .inl ⟨c.options.metadata, fun sent _ own => own ▸ rfl⟩
  | false =>
    cases extended : rules.extend c.options.metadata view.headers with
    | error e =>
      refine .inr ⟨e, fun sent path own => ?_⟩
      simp only [own, path, extended, Bool.false_eq_true, if_false]
      rfl
    | ok metadata =>
      refine .inl ⟨metadata, fun sent path own => ?_⟩
      simp only [own, extended, Bool.false_eq_true, if_false]
      rfl

/-- The headers of the view can be added to the call. -/
def Accepts (rules : MetadataRules) (view : ContextTransport) (c : EgressCall μ σ τ) : Prop :=
  ∃ sent, amended rules view c = .ok sent

/-- On metadata that was built, they can be iff no key and no missing header is refused. -/
theorem accepts_iff {c : EgressCall μ σ τ} (built : rules.Built c.options.metadata) :
    Accepts rules view c ↔ rules.refused c.options.metadata view.headers = none := by
  unfold Accepts amended
  rw [addHeaders_eq rules view built]
  cases rules.refused c.options.metadata view.headers with
  | some e => exact ⟨fun ⟨_, is⟩ => (nomatch is), fun is => nomatch is⟩
  | none => exact ⟨fun _ => rfl, fun _ => ⟨_, rfl⟩⟩

end ContextTransport

/-! ## The two arrangements -/

open ContextTransport

section

variable {υ μ σ τ ρ : Type}

/-- The bare client below a view, at its `i`-th invocation for a call: the calls that it is
given and its answer. -/
def LogicalCall.through (rules : MetadataRules) (view : ContextTransport)
    (c : LogicalCall υ μ σ τ ρ) (i : Nat) (sent : EgressCall μ σ τ) :
    List (EgressCall μ σ τ) × Except CallError ρ :=
  ContextTransport.make rules view (fun call given => (given ++ [call], c.bare i call)) sent []

/-- A retry client over a view, as the client that the breaker wraps. -/
def GrpcRetryClient.serveView (client : GrpcRetryClient υ) (rules : MetadataRules)
    (view : ContextTransport) (c : LogicalCall υ μ σ τ ρ) :
    Client (List (EgressCall μ σ τ)) μ σ τ ρ := fun call given =>
  let answers i sent := (c.through rules view i sent).2
  let run := client.make c.env c.payload answers call
  (given ++ run.handed.flatMap (fun entry => (c.through rules view entry.1 entry.2).1),
    run.result.get (client.make_answers c.env c.payload answers call))

namespace GrpcResilientClient

variable (client : GrpcResilientClient υ) (rules : MetadataRules) (view : ContextTransport)

/-- A logical call through a view of the resilient client. -/
def logicalAbove (c : LogicalCall υ μ σ τ ρ) (s : Around (List (EgressCall μ σ τ))) :
    Around (List (EgressCall μ σ τ)) × Except CallError ρ :=
  ContextTransport.make rules view (fun call s => client.logical { c with call := call } s)
    c.call s

/-- A logical call through a resilient client of a view. -/
def logicalBelow (c : LogicalCall υ μ σ τ ρ) (s : Around (List (EgressCall μ σ τ))) :
    Around (List (EgressCall μ σ τ)) × Except CallError ρ :=
  BreakerEgress.make client.breaker c.clock (client.retry.serveView rules view c) c.call s

/-- Logical calls made one after another: the stack after them, and their results. -/
def oneByOne (make : LogicalCall υ μ σ τ ρ → Around (List (EgressCall μ σ τ)) →
    Around (List (EgressCall μ σ τ)) × Except CallError ρ)
    (s : Around (List (EgressCall μ σ τ))) :
    List (LogicalCall υ μ σ τ ρ) →
      Around (List (EgressCall μ σ τ)) × List (Except CallError ρ)
  | [] => (s, [])
  | c :: rest =>
    let made := make c s
    let later := oneByOne make made.1 rest
    (later.1, made.2 :: later.2)

variable {client rules view}

theorem serveView_of_accepted {c : LogicalCall υ μ σ τ ρ} {metadata : Metadata}
    (adds : ∀ sent : EgressCall μ σ τ, sent.path = c.call.path →
      sent.options.metadata = c.call.options.metadata →
      amended rules view sent = .ok (sent.carrying metadata)) :
    client.retry.serveView rules view c c.call =
      client.retry.serve { c with call := c.call.carrying metadata }
        (c.call.carrying metadata) := by
  have passes : ∀ i sent, sent.path = c.call.path →
      sent.options.metadata = c.call.options.metadata →
      c.through rules view i sent = ([sent.carrying metadata], c.bare i (sent.carrying metadata)) :=
    fun i sent path own => make_of_amended (adds sent path own) []
  have same : client.retry.make c.env c.payload c.bare (c.call.carrying metadata) = _ :=
    GrpcRetryClient.make_translate id metadata (fun i sent => (c.through rules view i sent).2)
      c.call fun i sent path own => by
        rw [passes i sent path own]
        exact (congrFun Except.map_id _).symm
  have sends : (client.retry.make c.env c.payload (fun i sent => (c.through rules view i sent).2)
      c.call).handed.flatMap (fun entry => (c.through rules view entry.1 entry.2).1) =
      (client.retry.make c.env c.payload c.bare (c.call.carrying metadata)).sent := by
    rw [same, RetryOutcome.translate_sent, ← RetryOutcome.handed_sent, List.map_map,
      List.map_eq_flatMap, List.flatMap_def, List.flatMap_def]
    refine congrArg List.flatten (List.map_congr_left fun entry member => ?_)
    obtain ⟨path, own⟩ := GrpcRetryClient.make_handed_own member
    exact congrArg Prod.fst (passes entry.1 entry.2 path own)
  have answered : (client.retry.make c.env c.payload c.bare (c.call.carrying metadata)).result =
      (client.retry.make c.env c.payload (fun i sent => (c.through rules view i sent).2)
        c.call).result := by
    rw [same, RetryOutcome.translate, Except.map_id]
    exact Option.map_id_apply
  funext given
  simp only [GrpcRetryClient.serveView, GrpcRetryClient.serve, sends, answered]

theorem logicalAbove_eq_below {c : LogicalCall υ μ σ τ ρ}
    (accepts : Accepts rules view c.call) (s : Around (List (EgressCall μ σ τ))) :
    client.logicalAbove rules view c s = client.logicalBelow rules view c s := by
  rcases amended_cases rules view c.call with ⟨metadata, adds⟩ | ⟨e, refuses⟩
  · rw [logicalAbove, make_of_amended (adds c.call rfl rfl), logical, logicalBelow,
      BreakerEgress.make_eq_around, BreakerEgress.make_eq_around]
    have path : (c.call.carrying metadata).path = c.call.path := c.call.path_withOptions _
    rw [path, serveView_of_accepted adds]
  · obtain ⟨sent, made⟩ := accepts
    rw [refuses c.call rfl rfl] at made
    cases made

/-- A call whose headers cannot be added, below the stack: the bare client is given nothing
and the call fails, whatever the breaker does with it. -/
theorem logicalBelow_of_refused {c : LogicalCall υ μ σ τ ρ} {e : CallError}
    (refuses : ∀ sent : EgressCall μ σ τ, sent.path = c.call.path →
      sent.options.metadata = c.call.options.metadata → amended rules view sent = .error e)
    (s : Around (List (EgressCall μ σ τ))) :
    (client.logicalBelow rules view c s).1.below = s.below ∧
      ∃ failure, (client.logicalBelow rules view c s).2 = .error failure := by
  have passes : ∀ i sent, sent.path = c.call.path →
      sent.options.metadata = c.call.options.metadata →
      c.through rules view i sent = ([], .error e) :=
    fun i sent path own => make_of_refused (refuses sent path own) []
  have nothing : (client.retry.serveView rules view c c.call s.below).1 = s.below := by
    refine (congrArg (s.below ++ ·) ?_).trans (List.append_nil _)
    refine List.flatMap_eq_nil_iff.mpr fun entry member => ?_
    obtain ⟨path, own⟩ := GrpcRetryClient.make_handed_own member
    exact congrArg Prod.fst (passes entry.1 entry.2 path own)
  have fails : ∃ failure, (client.retry.serveView rules view c c.call s.below).2 =
      .error failure := by
    obtain ⟨failure, is⟩ := @GrpcRetryClient.make_of_refused _ _ _ _ ρ client.retry c.env c.payload
      (fun i sent => (c.through rules view i sent).2) c.call e
      fun i sent path own => congrArg Prod.snd (passes i sent path own)
    exact ⟨failure, Option.get_of_eq_some _ is⟩
  rw [logicalBelow, BreakerEgress.make_eq_around]
  unfold GrpcBreakerClient.around
  split
  · exact ⟨nothing, fails⟩
  · split
    · exact ⟨rfl, _, rfl⟩
    · exact ⟨nothing, fails⟩

theorem oneByOne_congr {make make' : LogicalCall υ μ σ τ ρ → Around (List (EgressCall μ σ τ)) →
      Around (List (EgressCall μ σ τ)) × Except CallError ρ} {calls : List (LogicalCall υ μ σ τ ρ)}
    (same : ∀ c ∈ calls, ∀ s, make c s = make' c s) (s : Around (List (EgressCall μ σ τ))) :
    oneByOne make s calls = oneByOne make' s calls := by
  induction calls generalizing s with
  | nil => rfl
  | cons c rest ih =>
    obtain ⟨now, later⟩ := List.forall_mem_cons.mp same
    simp only [oneByOne, now, ih later]

end GrpcResilientClient

end

open GrpcResilientClient

/-- An identity view of a resilient client, and a resilient client of an identity view. Over
any run of calls whose headers can be added the two are the same: the bare client is given
the same calls, the breaker is asked and told the same, and every call has the same result.
A call whose headers cannot be added is not sent by either; above the stack it leaves the
breaker as it was. -/
theorem identity_above_or_below {υ μ σ τ ρ : Type} (client : GrpcResilientClient υ)
    (rules : MetadataRules) (identity : CallerIdentity) (calls : List (LogicalCall υ μ σ τ ρ))
    (s : Around (List (EgressCall μ σ τ))) :
    let view := ContextTransport.ofIdentity identity
    ((∀ c ∈ calls, Accepts rules view c.call) →
      oneByOne (client.logicalAbove rules view) s calls =
        oneByOne (client.logicalBelow rules view) s calls) ∧
    ∀ c : LogicalCall υ μ σ τ ρ, ¬ Accepts rules view c.call →
      (∃ e, client.logicalAbove rules view c s =
        (s, .error (.transport c.call.path .invalidArgument
          ("the identity holds a header that is not valid: " ++ e)))) ∧
      (client.logicalBelow rules view c s).1.below = s.below ∧
      ∃ failure, (client.logicalBelow rules view c s).2 = .error failure := by
  intro view
  refine ⟨fun accepted => oneByOne_congr (fun c member s =>
    logicalAbove_eq_below (accepted c member) s) s, fun c refused => ?_⟩
  rcases amended_cases rules view c.call with ⟨metadata, adds⟩ | ⟨e, refuses⟩
  · exact absurd ⟨_, adds c.call rfl rfl⟩ refused
  · exact ⟨⟨e, make_of_refused (refuses c.call rfl rfl) s⟩, logicalBelow_of_refused refuses s⟩

namespace Tenant

/-- The call that names a tenant of its own, to a peer that is exhausted. -/
def exhausted : LogicalCall Unit Unit Unit Unit Unit := { RateLimited.call with call := call }

end Tenant

open Tenant in
/-- `identity_above_or_below` for that call, made twice: each of its attempts carries the
trace id once. -/
theorem identity_above_or_below_tenant :
    oneByOne (RateLimited.client.logicalAbove rules (.ofIdentity identity)) RateLimited.fresh
        [exhausted, exhausted] =
      oneByOne (RateLimited.client.logicalBelow rules (.ofIdentity identity)) RateLimited.fresh
        [exhausted, exhausted] ∧
    (oneByOne (RateLimited.client.logicalBelow rules (.ofIdentity identity)) RateLimited.fresh
      [exhausted]).1.below = List.replicate 5 (call.carrying
        ⟨call.options.metadata.text ++ [("x-trace-id", "7")], [("seal-bin", [1])]⟩) := by
  have accepted : ∀ c ∈ [exhausted, exhausted], Accepts rules (.ofIdentity identity) c.call :=
    fun c member => by
      rw [List.eq_of_mem_replicate (n := 2) member]
      exact ⟨_, rfl⟩
  exact ⟨(identity_above_or_below RateLimited.client rules identity [exhausted, exhausted]
    RateLimited.fresh).1 accepted, by decide⟩

end GrpcEgress
