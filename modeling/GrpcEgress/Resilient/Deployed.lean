import GrpcEgress.Builder.Dispatch
import GrpcEgress.Resilient.Overlapping
import GrpcEgress.Resilient.Requests

/-!
# A resilient client of an endpoint

The bare client below the resilient stack is an endpoint: each attempt that a loop hands
over is a call of the endpoint, which picks a backend for it, reports how it went to the
pool, and returns the answer to the loop. Attempt `n` is the `n`-th call that was handed
over. Any number of logical calls are on their way, and their futures may be dropped.

A payload is taken to decode what it encoded, so every iteration of a loop hands over a
call.

1. `poll_spec`, `answer_spec`: what a resumption is to the attempts of a call;
2. `Joined`, `joined_step`: where each attempt stands, and what is noted of it;
3. `deployed_attempts`: the loop is answered what the pool is told the judgement of, and
   nothing is sent that the breaker did not let through.
-/

namespace GrpcEgress

/-! ## The attempts of a future -/

/-- Every iteration of the call hands over a call. -/
def RetryPlan.Hands {υ ε : Type} : RetryPlan υ ε → Prop
  | .loop job => ∀ i timeout, ∃ call, job.closure i timeout = .ok call
  | .refused _ | .forward _ _ => True

theorem GrpcRetryClient.plan_hands {υ μ σ τ : Type} (client : GrpcRetryClient υ)
    {payload : Payload μ} (roundTrips : payload.RoundTrips) (call : EgressCall μ σ τ) :
    (client.plan payload call).Hands := by
  cases call with
  | call path request =>
    unfold plan
    dsimp only
    split
    · trivial
    · split
      · trivial
      · next encoded encodes =>
        intro i timeout
        by_cases first : i = 0
        · exact ⟨_, by simp only [job, typedClosure, first, if_true]; rfl⟩
        · refine ⟨.call path ⟨request.message, ⟨timeout, request.options.metadata⟩⟩, ?_⟩
          simp only [job, typedClosure, first, if_false, roundTrips _ _ encodes]
  | callRaw request => exact fun i timeout => ⟨_, rfl⟩
  | callServerStream | callClientStream | callBidiStream => trivial
  | callRawServerStream | callRawClientStream | callRawBidiStream => trivial

namespace RetryFuture

variable {υ ε ρ : Type} {plan : RetryPlan υ ε} {f f' : RetryFuture υ ε ρ}

/-- The wrapped client has an attempt of the call. -/
def pending (f : RetryFuture υ ε ρ) : Bool :=
  match f.phase with
  | .forwarding | .attempting _ _ _ => true
  | .fresh | .sleeping _ _ _ | .ended _ => false

/-- One call was handed over for each iteration so far. -/
def Counted (f : RetryFuture υ ε ρ) : Prop :=
  match f.phase with
  | .fresh => f.sent.length = 0
  | .forwarding => f.sent.length = 1
  | .attempting i _ _ | .sleeping i _ _ => f.sent.length = i + 1
  | .ended _ => True

/-- A poll: the loop does not wait for an answer, and may hand over one more call. -/
structure Polled (f f' : RetryFuture υ ε ρ) : Prop where
  idle : f.pending = false
  counted : f'.Counted
  answers : f'.readings.answers = f.readings.answers
  sent : (f'.sent = f.sent ∧ f'.pending = false) ∨
    ∃ call, f'.sent = f.sent ++ [call] ∧ f'.pending = true

/-- An answer: it is that of the last call that was handed over. -/
structure Told (result : Except CallError ρ) (f f' : RetryFuture υ ε ρ) : Prop where
  waits : f.pending = true
  past : f'.pending = false
  counted : f'.Counted
  sent : f'.sent = f.sent
  answers : ∃ i, f.sent.length = i + 1 ∧ f'.readings.answers i = result ∧
    ∀ j, j ≠ i → f'.readings.answers j = f.readings.answers j

theorem sent_append_attempt (events : List (RetryEvent ε)) (i : Nat) (timeout : Option Duration)
    (calls : List ε) (r r' : Readings υ ρ) (phase phase' : RetryPhase ρ) :
    (⟨r, phase, events ++ [.attempt i timeout calls]⟩ : RetryFuture υ ε ρ).sent =
      (⟨r', phase', events⟩ : RetryFuture υ ε ρ).sent ++ calls := by
  unfold sent RetryOutcome.sent
  rw [List.flatMap_append, List.flatMap_singleton]

theorem sent_append_pause (events : List (RetryEvent ε)) (i : Nat) (sleepFor : Duration)
    (r r' : Readings υ ρ) (phase phase' : RetryPhase ρ) :
    (⟨r, phase, events ++ [.pause i sleepFor]⟩ : RetryFuture υ ε ρ).sent =
      (⟨r', phase', events⟩ : RetryFuture υ ε ρ).sent := by
  unfold sent RetryOutcome.sent
  rw [List.flatMap_append, List.flatMap_singleton, List.append_nil]

/-- The loop comes to the top of iteration `i`, having handed over `i` calls. -/
theorem enter_polled {job : RetryJob υ ε} (hands : (RetryPlan.loop job).Hands) {i : Nat}
    {st : RetryState} (idle : f.pending = false) (count : f.sent.length = i)
    (elapsed : Duration) : Polled f (enter job f i st elapsed) := by
  unfold enter
  split
  · dsimp only
    split
    · exact ⟨idle, trivial, rfl, .inl ⟨rfl, rfl⟩⟩
    · next timeout due =>
      obtain ⟨call, closes⟩ := hands i timeout
      have one : job.sends i timeout = [call] := by
        unfold RetryJob.sends
        rw [closes]
      have sent : (⟨f.readings.readTop i elapsed, .attempting i st timeout,
          f.events ++ [.attempt i timeout (job.sends i timeout)]⟩ : RetryFuture υ ε ρ).sent =
          f.sent ++ [call] := (sent_append_attempt _ _ _ _ _ _ _ _).trans (congrArg _ one)
      refine ⟨idle, ?_, rfl, .inr ⟨call, sent, rfl⟩⟩
      show List.length _ = i + 1
      rw [sent, List.length_append, count]
      rfl
  · exact ⟨idle, trivial, rfl, .inl ⟨rfl, rfl⟩⟩

theorem poll_spec (hands : plan.Hands) (counted : f.Counted) {elapsed : Duration}
    (stepped : f.step plan (.poll elapsed) = some f') : Polled f f' := by
  simp only [step] at stepped
  split at stepped
  · next fresh =>
    cases stepped
    exact ⟨by rw [pending, fresh], trivial, rfl, .inl ⟨rfl, rfl⟩⟩
  · next timeout call fresh =>
    cases stepped
    have none : f.sent.length = 0 := by
      rw [Counted, fresh] at counted
      exact counted
    have sent : (⟨f.readings, .forwarding, f.events ++ [.attempt 0 timeout [call]]⟩ :
        RetryFuture υ ε ρ).sent = f.sent ++ [call] := sent_append_attempt _ _ _ _ _ _ _ _
    refine ⟨by rw [pending, fresh], ?_, rfl, .inr ⟨call, sent, rfl⟩⟩
    show List.length _ = 1
    rw [sent, List.length_append, none]
    rfl
  · next job fresh =>
    cases stepped
    rw [Counted, fresh] at counted
    exact enter_polled hands (by rw [pending, fresh]) counted elapsed
  · next i st sleepFor job sleeping =>
    cases stepped
    rw [Counted, sleeping] at counted
    exact enter_polled hands (by rw [pending, sleeping]) counted elapsed
  · cases stepped

theorem answer_spec (counted : f.Counted) {result : Except CallError ρ} {jitter : υ}
    {elapsed : Duration} (stepped : f.step plan (.answer result jitter elapsed) = some f') :
    Told result f f' := by
  simp only [step] at stepped
  split at stepped
  · next forwarding =>
    cases stepped
    rw [Counted, forwarding] at counted
    exact ⟨by rw [pending, forwarding], rfl, trivial, rfl, 0, counted,
      Readings.readAnswer_self _ _ _ _ _, Readings.readAnswer_other _ _ _ _ _⟩
  · next i st timeout job attempting =>
    cases stepped
    rw [Counted, attempting] at counted
    have waits : f.pending = true := by rw [pending, attempting]
    unfold settle
    dsimp only
    split
    · next st' sleepFor settles =>
      have sent := sent_append_pause f.events i sleepFor
        (f.readings.readAnswer i result jitter elapsed) f.readings (.sleeping i st' sleepFor)
        f.phase
      exact ⟨waits, rfl, (congrArg List.length sent).trans counted, sent, i, counted,
        Readings.readAnswer_self _ _ _ _ _, Readings.readAnswer_other _ _ _ _ _⟩
    · exact ⟨waits, rfl, trivial, rfl, i, counted, Readings.readAnswer_self _ _ _ _ _,
        Readings.readAnswer_other _ _ _ _ _⟩
  · cases stepped

end RetryFuture

/-! ## The deployment -/

/-- A resilient client and the endpoint below it. -/
structure Deployed (υ μ σ τ ρ : Type) where
  stack : ResilientPool υ μ σ τ ρ
  endpoint : Dispatch μ σ τ ρ

/-- What can happen next: a step of the stack that is not an answer, a call of the endpoint
for attempt `n`, or the answer of the client that was picked for it. -/
inductive DeployedAct (υ ρ : Type) where
  | stack (act : ResilientAct υ ρ)
  | dispatch (n : Nat) (selected : Except String Backend) (jitter : υ)
  | answer (n : Nat) (result : Except CallError ρ) (jitter : υ)

/-- What the pool selected when the endpoint was called for attempt `n`, in order. -/
def selections {υ ρ : Type} (acts : List (DeployedAct υ ρ)) (n : Nat) :
    List (Except String Backend) :=
  acts.filterMap fun
    | .dispatch m selected _ => if m = n then some selected else none
    | .stack _ | .answer _ _ _ => none

theorem selections_append {υ ρ : Type} (past acts : List (DeployedAct υ ρ)) (n : Nat) :
    selections (past ++ acts) n = selections past n ++ selections acts n :=
  List.filterMap_append

namespace Deployed

variable {υ μ σ τ ρ : Type} (client : GrpcResilientClient υ) (payloads : Nat → Payload μ)
  (calls : Nat → EgressCall μ σ τ) (transport : EndpointTransport) (display : CallError → String)

/-- No call has begun. -/
def start (readings : Nat → Readings υ ρ) : Deployed υ μ σ τ ρ := ⟨.start readings, .start⟩

/-- One step of the whole. A call of the endpoint that is refused is answered at once. -/
def step (s : Deployed υ μ σ τ ρ) : DeployedAct υ ρ → Option (Deployed υ μ σ τ ρ)
  | .stack act =>
    match act with
    | .answer _ _ _ => none
    | act => (client.step payloads calls s.stack act).map fun stack => { s with stack := stack }
  | .dispatch n selected jitter =>
    match s.stack.handed[n]? with
    | none => none
    | some (k, call) =>
      if s.stack.running k then
        (s.endpoint.step transport display (fun _ => call) (.start n selected)).bind
          fun endpoint =>
            match transport.send selected call with
            | .ok _ => some { s with endpoint := endpoint }
            | .error e =>
              (client.step payloads calls s.stack (.answer k (.error e) jitter)).map
                fun stack => ⟨stack, endpoint⟩
      else none
  | .answer n result jitter =>
    match s.stack.handed[n]? with
    | none => none
    | some (k, call) =>
      (s.endpoint.step transport display (fun _ => call) (.answer n result)).bind
        fun endpoint =>
          (client.step payloads calls s.stack (.answer k result jitter)).map
            fun stack => ⟨stack, endpoint⟩

end Deployed

namespace GrpcResilientClient

variable {υ μ σ τ ρ : Type} {client : GrpcResilientClient υ} {payloads : Nat → Payload μ}
  {calls : Nat → EgressCall μ σ τ} {s s' : ResilientPool υ μ σ τ ρ}

/-- A step of the stack that is not an answer: only the breaker moves, or a loop is polled. -/
theorem step_own {act : ResilientAct υ ρ} (own : ∀ k result jitter, act ≠ .answer k result jitter)
    (stepped : client.step payloads calls s act = some s') :
    (∃ pool, s' = { s with pool := pool }) ∨
    ∃ k elapsed f, (s.future k).step (client.planOf payloads calls k) (.poll elapsed) = some f ∧
      s' = s.resumed k f := by
  cases act with
  | answer k result jitter => exact absurd rfl (own k result jitter)
  | poll k =>
    simp only [step] at stepped
    split at stepped
    · obtain ⟨f, resumed, rfl⟩ := Option.map_eq_some_iff.mp stepped
      exact .inr ⟨k, _, f, resumed, rfl⟩
    · cases stepped
  | breaker act =>
    simp only [step] at stepped
    split at stepped
    · cases stepped
    · obtain ⟨pool, -, rfl⟩ := Option.map_eq_some_iff.mp stepped
      exact .inl ⟨pool, rfl⟩
  | finish k =>
    simp only [step] at stepped
    split at stepped
    · obtain ⟨pool, -, rfl⟩ := Option.map_eq_some_iff.mp stepped
      exact .inl ⟨pool, rfl⟩
    · cases stepped

theorem step_answered {k : Nat} {result : Except CallError ρ} {jitter : υ}
    (stepped : client.step payloads calls s (.answer k result jitter) = some s') :
    ∃ elapsed f, (s.future k).step (client.planOf payloads calls k)
      (.answer result jitter elapsed) = some f ∧ s' = s.resumed k f := by
  simp only [step] at stepped
  split at stepped
  · obtain ⟨f, resumed, rfl⟩ := Option.map_eq_some_iff.mp stepped
    exact ⟨_, f, resumed, rfl⟩
  · cases stepped

end GrpcResilientClient

/-! ## Where each attempt stands -/

/-- How many attempts of its call were handed over before attempt `n`. -/
def attemptRank {α : Type} (handed : List (Nat × α)) (n k : Nat) : Nat :=
  (handed.take n).countP fun entry => entry.1 == k

theorem attemptRank_append {α : Type} {handed more : List (Nat × α)} {n : Nat}
    (within : n ≤ handed.length) (k : Nat) :
    attemptRank (handed ++ more) n k = attemptRank handed n k := by
  unfold attemptRank
  rw [List.take_append_of_le_length within]

theorem attemptRank_lt {α : Type} {handed : List (Nat × α)} {n m k : Nat} {call : α}
    (nth : handed[n]? = some (k, call)) (before : n < m) :
    attemptRank handed n k < attemptRank handed m k := by
  have here : attemptRank handed (n + 1) k = attemptRank handed n k + 1 := by
    unfold attemptRank
    rw [List.take_add_one, nth, List.countP_append]
    simp
  rw [← Nat.succ_le_iff, Nat.succ_eq_add_one, ← here]
  exact List.Sublist.countP_le (List.take_sublist_take_left before)

/-- Attempts of one call have ranks of their own. -/
theorem attemptRank_inj {α : Type} {handed : List (Nat × α)} {n m k : Nat} {call call' : α}
    (atN : handed[n]? = some (k, call)) (atM : handed[m]? = some (k, call'))
    (same : attemptRank handed n k = attemptRank handed m k) : n = m := by
  rcases Nat.lt_trichotomy n m with before | is | after
  · exact absurd same (Nat.ne_of_lt (attemptRank_lt atN before))
  · exact is
  · exact absurd same (Nat.ne_of_gt (attemptRank_lt atM after))

/-- Where attempt `n` stands at the endpoint: what was selected for it, its phase, and what
is noted of it. It is on its way, and the loop waits for it, or it was answered with
`answer`, by the endpoint itself or by the client that it went to. -/
inductive AttemptAt {μ σ τ ρ : Type} (transport : EndpointTransport) (display : CallError → String)
    (n : Nat) (call : EgressCall μ σ τ) (answer : Except CallError ρ) (current : Prop) :
    List (Except String Backend) → DispatchPhase → List (DispatchNote μ σ τ ρ) → Prop
  | handed : current → AttemptAt transport display n call answer current [] .entering []
  | waiting {selected : Except String Backend} {client : TonicOptions} {backend : Option Backend} :
      current → Chosen transport selected client backend →
      AttemptAt transport display n call answer current [selected] (.waiting ⟨client, backend⟩)
        [.sent n client call]
  | refused {selected : Except String Backend} {e : CallError} :
      Unchosen transport call.path selected e → answer = .error e →
      AttemptAt transport display n call answer current [selected] .done [.ended n (.error e)]
  | answered {selected : Except String Backend} {client : TonicOptions}
      {backend : Option Backend} :
      Chosen transport selected client backend →
      AttemptAt transport display n call answer current [selected] .done
        (.sent n client call ::
          (backend.toList.map fun backend =>
            .reported n backend.id (backendOutcomeOf display answer)) ++ [.ended n answer])

namespace Deployed

variable {υ μ σ τ ρ : Type} {client : GrpcResilientClient υ} {payloads : Nat → Payload μ}
  {calls : Nat → EgressCall μ σ τ} {transport : EndpointTransport}
  {display : CallError → String}

/-- Attempt `n` is the last one of call `k`, and the loop of the call waits for it. -/
def Current (s : ResilientPool υ μ σ τ ρ) (n k : Nat) : Prop :=
  (s.future k).pending = true ∧ attemptRank s.handed n k + 1 = (s.future k).sent.length

/-- What holds of the stack and the endpoint after every run `past`. -/
structure Joined (client : GrpcResilientClient υ) (payloads : Nat → Payload μ)
    (calls : Nat → EgressCall μ σ τ) (transport : EndpointTransport)
    (display : CallError → String) (past : List (DeployedAct υ ρ)) (s : Deployed υ μ σ τ ρ) :
    Prop where
  stack : client.Inv payloads calls s.stack
  counted : ∀ k, (s.stack.future k).Counted
  attempts : ∀ n k call, s.stack.handed[n]? = some (k, call) →
    AttemptAt transport display n call
      ((s.stack.future k).readings.answers (attemptRank s.stack.handed n k))
      (Current s.stack n k) (selections past n) (s.endpoint.phase n) (s.endpoint.notesOf n)
  unmade : ∀ n, s.stack.handed.length ≤ n →
    selections past n = [] ∧ s.endpoint.phase n = .entering ∧ s.endpoint.notesOf n = []

theorem joined_start (readings : Nat → Readings υ ρ) :
    Joined client payloads calls transport display [] (.start readings : Deployed υ μ σ τ ρ) where
  stack := GrpcResilientClient.inv_start readings
  counted _ := rfl
  attempts _ _ _ nth := nomatch nth
  unmade _ _ := ⟨rfl, rfl, rfl⟩

/-- An attempt that nothing waits for stays as it is. -/
theorem AttemptAt.settled {n : Nat} {call : EgressCall μ σ τ} {answer : Except CallError ρ}
    {current current' : Prop} {made : List (Except String Backend)} {phase : DispatchPhase}
    {notes : List (DispatchNote μ σ τ ρ)} (past : ¬ current)
    (stands : AttemptAt transport display n call answer current made phase notes) :
    AttemptAt transport display n call answer current' made phase notes := by
  cases stands with
  | handed is => exact absurd is past
  | waiting is => exact absurd is past
  | refused refused failed => exact .refused refused failed
  | answered picked => exact .answered picked

section

variable {n : Nat} {call : EgressCall μ σ τ} {answer : Except CallError ρ} {current : Prop}
  {made : List (Except String Backend)} {notes : List (DispatchNote μ σ τ ρ)}

theorem AttemptAt.of_entering
    (stands : AttemptAt transport display n call answer current made .entering notes) :
    current ∧ made = [] ∧ notes = [] := by
  cases stands with
  | handed is => exact ⟨is, rfl, rfl⟩

theorem AttemptAt.of_waiting {pick : Pick}
    (stands : AttemptAt transport display n call answer current made (.waiting pick) notes) :
    current ∧ notes = [.sent n pick.client call] ∧
      ∃ selected, made = [selected] ∧ Chosen transport selected pick.client pick.backend := by
  cases stands with
  | waiting is chosen => exact ⟨is, rfl, _, rfl, chosen⟩

end

section

variable {past past' : List (DeployedAct υ ρ)} {s : Deployed υ μ σ τ ρ} {k : Nat}
  {f : RetryFuture υ (EgressCall μ σ τ) ρ}

/-- Nothing is selected. -/
theorem Joined.of_still (joined : Joined client payloads calls transport display past s)
    (still : ∀ n, selections past' n = selections past n) :
    Joined client payloads calls transport display past' s where
  stack := joined.stack
  counted := joined.counted
  attempts n k call nth := by
    rw [still]
    exact joined.attempts n k call nth
  unmade n outside := by
    rw [still]
    exact joined.unmade n outside

/-- The other calls see nothing of a resumption of call `k`. -/
theorem current_other {stack : ResilientPool υ μ σ τ ρ} {n j : Nat} (other : j ≠ k)
    (within : n ≤ stack.handed.length) : Current (stack.resumed k f) n j = Current stack n j := by
  unfold Current
  rw [show (stack.resumed k f).future j = stack.future j from if_neg other]
  rw [show attemptRank (stack.resumed k f).handed n j = attemptRank stack.handed n j from
    attemptRank_append within j]

/-- A loop is polled. -/
theorem joined_polled (joined : Joined client payloads calls transport display past s)
    (stack : client.Inv payloads calls (s.stack.resumed k f))
    (polled : RetryFuture.Polled (s.stack.future k) f) :
    Joined client payloads calls transport display past
      { s with stack := s.stack.resumed k f } := by
  have own : (s.stack.resumed k f).future k = f := if_pos rfl
  have other : ∀ {j}, j ≠ k → (s.stack.resumed k f).future j = s.stack.future j :=
    fun ne => if_neg ne
  refine ⟨stack, fun j => ?_, fun n j call nth => ?_, fun n outside => ?_⟩
  · show ((s.stack.resumed k f).future j).Counted
    by_cases same : j = k
    · rw [same, own]
      exact polled.counted
    · rw [other same]
      exact joined.counted j
  · by_cases within : n < s.stack.handed.length
    · have before : s.stack.handed[n]? = some (j, call) :=
        (List.getElem?_append_left within).symm.trans nth
      have stands := joined.attempts n j call before
      rw [show attemptRank (s.stack.resumed k f).handed n j = attemptRank s.stack.handed n j from
        attemptRank_append (Nat.le_of_lt within) j]
      by_cases same : j = k
      · subst same
        dsimp only
        rw [own, polled.answers]
        have idle : ¬ Current s.stack n j := fun current =>
          Bool.false_ne_true (polled.idle.symm.trans current.1)
        exact AttemptAt.settled idle stands
      · dsimp only
        rw [other same, current_other same (Nat.le_of_lt within)]
        exact stands
    · -- The attempt that is handed over now.
      have new : ((f.sent.drop (s.stack.future k).sent.length).map fun call => (k, call))[n -
          s.stack.handed.length]? = some (j, call) :=
        (List.getElem?_append_right (Nat.not_lt.mp within)).symm.trans nth
      rcases polled.sent with ⟨none, -⟩ | ⟨call', sent, pending⟩
      · rw [none, List.drop_length] at new
        cases new
      · rw [sent, List.drop_left] at new
        have last : n = s.stack.handed.length := by
          have short := (List.getElem?_eq_some_iff.mp new).1
          rw [List.length_map, List.length_singleton] at short
          omega
        subst last
        rw [Nat.sub_self] at new
        cases new
        obtain ⟨unmade, entering, nothing⟩ := joined.unmade _ (Nat.le_refl _)
        dsimp only
        rw [unmade, entering, nothing, own]
        refine .handed ⟨(congrArg RetryFuture.pending own).trans pending, ?_⟩
        rw [own, sent, List.length_append, ← joined.stack.handed k,
          show attemptRank (s.stack.resumed k f).handed s.stack.handed.length k =
            attemptRank s.stack.handed s.stack.handed.length k from
            attemptRank_append (Nat.le_refl _) k]
        unfold attemptRank ResilientPool.handedFor
        rw [List.take_length, List.length_map, List.countP_eq_length_filter]
        rfl
  · have fewer : s.stack.handed.length ≤ n :=
      Nat.le_trans (List.length_append ▸ Nat.le_add_right _ _) outside
    exact joined.unmade n fewer

/-- The loop of call `k` is answered, and the endpoint is done with the attempt. -/
theorem joined_told {n : Nat} {call : EgressCall μ σ τ} {result : Except CallError ρ}
    {notes : List (DispatchNote μ σ τ ρ)}
    (joined : Joined client payloads calls transport display past s)
    (others : ∀ m, m ≠ n → selections past' m = selections past m)
    (stack : client.Inv payloads calls (s.stack.resumed k f))
    (nth : s.stack.handed[n]? = some (k, call)) (current : Current s.stack n k)
    (told : RetryFuture.Told result (s.stack.future k) f) (own : ∀ note ∈ notes, note.call = n)
    (settled : ∀ current', AttemptAt transport display n call result current'
      (selections past' n) .done (s.endpoint.notesOf n ++ notes)) :
    Joined client payloads calls transport display past'
      ⟨s.stack.resumed k f, s.endpoint.move n .done notes⟩ := by
  have mine : (s.stack.resumed k f).future k = f := if_pos rfl
  have other : ∀ {j}, j ≠ k → (s.stack.resumed k f).future j = s.stack.future j :=
    fun ne => if_neg ne
  have same : (s.stack.resumed k f).handed = s.stack.handed := by
    show s.stack.handed ++ _ = _
    rw [told.sent, List.drop_length]
    exact List.append_nil _
  obtain ⟨i, count, answered, before⟩ := told.answers
  have index : attemptRank s.stack.handed n k = i :=
    Nat.succ.inj (current.2.trans count)
  refine ⟨stack, fun j => ?_, fun m j call' there => ?_, fun m outside => ?_⟩
  · show ((s.stack.resumed k f).future j).Counted
    by_cases is : j = k
    · rw [is, mine]
      exact told.counted
    · rw [other is]
      exact joined.counted j
  · dsimp only at there ⊢
    rw [same] at there ⊢
    by_cases is : m = n
    · subst is
      cases nth.symm.trans there
      rw [mine, index, answered, Dispatch.move_phase_self, Dispatch.notesOf_move_self own]
      exact settled _
    · rw [others m is, Dispatch.move_phase_other is, Dispatch.notesOf_move_other own is]
      have stands := joined.attempts m j call' there
      by_cases mineToo : j = k
      · subst mineToo
        have elsewhere : attemptRank s.stack.handed m j ≠ i := fun rank =>
          is (attemptRank_inj there nth (rank.trans index.symm))
        rw [mine, before _ elsewhere]
        have idle : ¬ Current s.stack m j := fun now =>
          elsewhere (Nat.succ.inj (now.2.trans count))
        exact AttemptAt.settled idle stands
      · rw [other mineToo, current_other mineToo
          (Nat.le_of_lt (List.getElem?_eq_some_iff.mp there).1)]
        exact stands
  · dsimp only at outside ⊢
    rw [same] at outside
    have is : m ≠ n := by
      rintro rfl
      exact absurd (List.getElem?_eq_some_iff.mp nth).1 (Nat.not_lt.mpr outside)
    rw [others m is, Dispatch.move_phase_other is, Dispatch.notesOf_move_other own is]
    exact joined.unmade m outside

end

/-- Attempt `n` is given to the client of the backend that was picked. -/
theorem joined_sent {past past' : List (DeployedAct υ ρ)} {s : Deployed υ μ σ τ ρ} {n k : Nat}
    {call : EgressCall μ σ τ} {selected : Except String Backend} {pick : Pick}
    (joined : Joined client payloads calls transport display past s)
    (others : ∀ m, m ≠ n → selections past' m = selections past m)
    (chose : selections past' n = selections past n ++ [selected])
    (nth : s.stack.handed[n]? = some (k, call)) (entering : s.endpoint.phase n = .entering)
    (chosen : Chosen transport selected pick.client pick.backend) :
    Joined client payloads calls transport display past'
      { s with endpoint := s.endpoint.move n (.waiting pick) [.sent n pick.client call] } := by
  have own : ∀ note ∈ ([.sent n pick.client call] : List (DispatchNote μ σ τ ρ)),
      note.call = n := List.forall_mem_singleton.mpr rfl
  refine ⟨joined.stack, joined.counted, fun m j call' there => ?_, fun m outside => ?_⟩
  · have stands := joined.attempts m j call' there
    dsimp only
    by_cases is : m = n
    · subst is
      cases nth.symm.trans there
      rw [entering] at stands
      obtain ⟨current, unmade, nothing⟩ := AttemptAt.of_entering stands
      rw [chose, Dispatch.move_phase_self, Dispatch.notesOf_move_self own, unmade, nothing]
      exact .waiting current chosen
    · rw [others m is, Dispatch.move_phase_other is, Dispatch.notesOf_move_other own is]
      exact stands
  · have is : m ≠ n := by
      rintro rfl
      exact absurd (List.getElem?_eq_some_iff.mp nth).1 (Nat.not_lt.mpr outside)
    dsimp only
    rw [others m is, Dispatch.move_phase_other is, Dispatch.notesOf_move_other own is]
    exact joined.unmade m outside

section

variable (past : List (DeployedAct υ ρ))

/-- The endpoint is called for attempt `n`. -/
theorem selections_dispatch (n : Nat) (selected : Except String Backend) (jitter : υ) :
    selections (past ++ [.dispatch n selected jitter]) n = selections past n ++ [selected] := by
  rw [selections_append]
  exact congrArg _ (List.filterMap_cons_some (if_pos rfl))

theorem selections_other {n m : Nat} (other : m ≠ n) (selected : Except String Backend)
    (jitter : υ) :
    selections (past ++ [.dispatch n selected jitter]) m = selections past m := by
  have none : selections ([.dispatch n selected jitter] : List (DeployedAct υ ρ)) m = [] :=
    List.filterMap_cons_none (if_neg other.symm)
  rw [selections_append, none, List.append_nil]

theorem selections_still {act : DeployedAct υ ρ}
    (own : ∀ n selected jitter, act ≠ .dispatch n selected jitter) (m : Nat) :
    selections (past ++ [act]) m = selections past m := by
  rw [selections_append]
  cases act with
  | stack | answer => exact List.append_nil _
  | dispatch n selected jitter => exact absurd rfl (own n selected jitter)

end

/-- What one step keeps. -/
theorem joined_step (roundTrips : ∀ k, (payloads k).RoundTrips) {past : List (DeployedAct υ ρ)}
    {s s' : Deployed υ μ σ τ ρ} {act : DeployedAct υ ρ}
    (joined : Joined client payloads calls transport display past s)
    (stepped : step client payloads calls transport display s act = some s') :
    Joined client payloads calls transport display (past ++ [act]) s' := by
  cases act with
  | stack act =>
    refine Joined.of_still ?_ (selections_still past fun _ _ _ is => by cases is)
    have own : ∀ k result jitter, act ≠ .answer k result jitter := by
      rintro k result jitter rfl
      cases stepped
    have moved : ∃ stack, client.step payloads calls s.stack act = some stack ∧
        s' = { s with stack := stack } := by
      cases act with
      | answer k result jitter => cases stepped
      | breaker | poll | finish =>
        obtain ⟨stack, moved, rfl⟩ := Option.map_eq_some_iff.mp stepped
        exact ⟨stack, moved, rfl⟩
    obtain ⟨stack, moved, rfl⟩ := moved
    have inv := GrpcResilientClient.inv_step joined.stack moved
    rcases GrpcResilientClient.step_own own moved with ⟨pool, rfl⟩ | ⟨k, elapsed, f, resumed, rfl⟩
    · exact ⟨inv, joined.counted, joined.attempts, joined.unmade⟩
    · exact joined_polled joined inv
        (RetryFuture.poll_spec (client.retry.plan_hands (roundTrips k) (calls k))
          (joined.counted k) resumed)
  | dispatch n selected jitter =>
    simp only [step] at stepped
    split at stepped
    · cases stepped
    · next k call nth =>
      split at stepped
      · obtain ⟨endpoint, started, goesOn⟩ := Option.bind_eq_some_iff.mp stepped
        have stands := joined.attempts n k call nth
        rcases Dispatch.step_cases started with ⟨_, _, e, is, entering, refused, rfl⟩ |
          ⟨_, _, pick, sent, is, entering, picked, rfl⟩ | ⟨_, _, _, is, -, -⟩
        · -- The endpoint refuses the attempt, and the loop goes on with that.
          cases is
          rw [entering] at stands
          obtain ⟨current, unmade, nothing⟩ := AttemptAt.of_entering stands
          rw [refused] at goesOn
          obtain ⟨stack, told, rfl⟩ := Option.map_eq_some_iff.mp goesOn
          have inv := GrpcResilientClient.inv_step joined.stack told
          obtain ⟨elapsed, f, resumed, rfl⟩ := GrpcResilientClient.step_answered told
          refine joined_told joined (fun _ other => selections_other past other selected jitter)
            inv nth current (RetryFuture.answer_spec (joined.counted k) resumed)
            (List.forall_mem_singleton.mpr rfl) fun _ => ?_
          rw [selections_dispatch, unmade, nothing]
          exact .refused (EndpointTransport.unchosen_of_pickBackend
            (EndpointTransport.send_eq_error.mp refused)) rfl
        · cases is
          obtain ⟨backend, rfl⟩ := EndpointTransport.send_eq_ok.mp picked
          rw [picked] at goesOn
          cases goesOn
          exact joined_sent joined (fun _ other => selections_other past other selected jitter)
            (selections_dispatch past n selected jitter) nth entering
            (EndpointTransport.chosen_of_pickBackend backend)
        · cases is
      · cases stepped
  | answer n result jitter =>
    simp only [step] at stepped
    split at stepped
    · cases stepped
    · next k call nth =>
      obtain ⟨endpoint, returned, answered⟩ := Option.bind_eq_some_iff.mp stepped
      obtain ⟨stack, told, rfl⟩ := Option.map_eq_some_iff.mp answered
      have inv := GrpcResilientClient.inv_step joined.stack told
      obtain ⟨elapsed, f, resumed, rfl⟩ := GrpcResilientClient.step_answered told
      have stands := joined.attempts n k call nth
      rcases Dispatch.step_cases returned with ⟨_, _, _, is, -, -, -⟩ | ⟨_, _, _, _, is, -, -, -⟩ |
        ⟨_, pick, _, is, waiting, rfl⟩
      · cases is
      · cases is
      · cases is
        rw [waiting] at stands
        obtain ⟨current, sent, selected, made, chosen⟩ := AttemptAt.of_waiting stands
        have still : ∀ m, selections (past ++ [.answer n result jitter]) m = selections past m :=
          selections_still past fun _ _ _ is => by cases is
        refine joined_told joined (fun m _ => still m) inv nth current
          (RetryFuture.answer_spec (joined.counted k) resumed)
          (fun _ => Dispatch.call_answerNotes) fun _ => ?_
        rw [still n, made, sent, Dispatch.answerNotes_of_chosen chosen]
        exact .answered chosen

/-- What holds after a run. -/
theorem joined_run (roundTrips : ∀ k, (payloads k).RoundTrips) {readings : Nat → Readings υ ρ}
    {acts : List (DeployedAct υ ρ)} {s : Deployed υ μ σ τ ρ}
    (ran : Runs.run (step client payloads calls transport display) (.start readings) acts =
      some s) : Joined client payloads calls transport display acts s :=
  Runs.run_history (Joined client payloads calls transport display)
    (fun _ _ _ _ joined stepped => joined_step roundTrips joined stepped) (joined_start readings)
    ran

/-- A step of the whole is a step of the stack, or none. -/
theorem step_stack {s s' : Deployed υ μ σ τ ρ} {act : DeployedAct υ ρ}
    (stepped : step client payloads calls transport display s act = some s') :
    ∃ own, Runs.run (client.step payloads calls) s.stack own = some s'.stack := by
  have one : ∀ {act stack}, client.step payloads calls s.stack act = some stack →
      ∃ own, Runs.run (client.step payloads calls) s.stack own = some stack :=
    fun moved => ⟨[_], Runs.run_cons.mpr ⟨_, moved, rfl⟩⟩
  cases act with
  | stack act =>
    cases act with
    | answer k result jitter => cases stepped
    | breaker | poll | finish =>
      obtain ⟨stack, moved, rfl⟩ := Option.map_eq_some_iff.mp stepped
      exact one moved
  | dispatch n selected jitter =>
    simp only [step] at stepped
    split at stepped
    · cases stepped
    · split at stepped
      · obtain ⟨endpoint, -, goesOn⟩ := Option.bind_eq_some_iff.mp stepped
        split at goesOn
        · cases goesOn
          exact ⟨[], rfl⟩
        · obtain ⟨stack, moved, rfl⟩ := Option.map_eq_some_iff.mp goesOn
          exact one moved
      · cases stepped
  | answer n result jitter =>
    simp only [step] at stepped
    split at stepped
    · cases stepped
    · obtain ⟨endpoint, -, answered⟩ := Option.bind_eq_some_iff.mp stepped
      obtain ⟨stack, moved, rfl⟩ := Option.map_eq_some_iff.mp answered
      exact one moved

end Deployed

/-- The attempt that a client was given. -/
def DispatchNote.asSent {μ σ τ ρ : Type} :
    DispatchNote μ σ τ ρ → Option (Nat × EgressCall μ σ τ)
  | .sent n _ call => some (n, call)
  | .reported _ _ _ | .ended _ _ => none

theorem sents_of {μ σ τ ρ : Type} (notes : List (DispatchNote μ σ τ ρ)) (n : Nat) :
    (notes.filterMap DispatchNote.asSent).filter (fun entry => entry.1 == n) =
      (notes.filter fun note => note.call == n).filterMap DispatchNote.asSent := by
  rw [List.filter_filterMap, List.filterMap_filter]
  congr 1
  funext note
  cases note with
  | sent m client call => exact rfl
  | reported m backend outcome => exact (ite_self none).symm
  | ended m result => exact (ite_self none).symm

theorem AttemptAt.sent_once {μ σ τ ρ : Type} {transport : EndpointTransport}
    {display : CallError → String} {n : Nat} {call : EgressCall μ σ τ}
    {answer : Except CallError ρ} {current : Prop} {made : List (Except String Backend)}
    {phase : DispatchPhase} {notes : List (DispatchNote μ σ τ ρ)}
    (stands : AttemptAt transport display n call answer current made phase notes) :
    (notes.filterMap DispatchNote.asSent).length ≤ 1 := by
  cases stands with
  | handed => exact Nat.zero_le 1
  | waiting => exact Nat.le_refl 1
  | refused => exact Nat.zero_le 1
  | @answered selected client backend chosen =>
    cases backend with
    | none => exact Nat.le_refl 1
    | some backend => exact Nat.le_refl 1

namespace Deployed

variable {υ μ σ τ ρ : Type} {client : GrpcResilientClient υ} {payloads : Nat → Payload μ}
  {calls : Nat → EgressCall μ σ τ} {transport : EndpointTransport}
  {display : CallError → String}

/-- No attempt is sent twice, and nothing that was not handed over. -/
theorem Joined.sents_le {past : List (DeployedAct υ ρ)} {s : Deployed υ μ σ τ ρ}
    (joined : Joined client payloads calls transport display past s) :
    (s.endpoint.notes.filterMap DispatchNote.asSent).length ≤ s.stack.handed.length := by
  have all := @length_le_of_keys _ 1 (List.range s.stack.handed.length)
    (s.endpoint.notes.filterMap DispatchNote.asSent) (fun n => ?_) fun entry member => ?_
  · rw [Nat.one_mul, List.length_range] at all
    exact all
  · rw [sents_of]
    show ((s.endpoint.notesOf n).filterMap _).length ≤ 1
    by_cases within : n < s.stack.handed.length
    · exact (joined.attempts n _ _ (List.getElem?_eq_getElem within)).sent_once
    · rw [(joined.unmade n (Nat.not_lt.mp within)).2.2]
      exact Nat.zero_le 1
  · obtain ⟨note, noted, is⟩ := List.mem_filterMap.mp member
    refine List.mem_range.mpr (Nat.not_le.mp fun outside => ?_)
    have none := (joined.unmade entry.1 outside).2.2
    have here : note ∈ s.endpoint.notesOf entry.1 := by
      cases note with
      | sent m client call =>
        cases is
        exact List.mem_filter.mpr ⟨noted, beq_self_eq_true m⟩
      | reported | ended => cases is
    rw [none] at here
    cases here

end Deployed

open Deployed

/-- A resilient client of an endpoint, with any calls on their way in any order, any pool
and any clients. What it does is what the stack does by itself with some bare client. Each
attempt that a loop hands over is one call of the endpoint: it is on its way and the loop
waits for it, or it is refused and the loop is answered with that, or it was sent once, to
the client of the backend that the pool selected for it, and the pool was told once, of that
backend, the judgement of the very answer that the loop was given. Nothing else is noted, and
no more is sent than `max_attempts` allows for the calls that the breaker let through. -/
theorem deployed_attempts {υ μ σ τ ρ : Type} (client : GrpcResilientClient υ)
    (payloads : Nat → Payload μ) (roundTrips : ∀ k, (payloads k).RoundTrips)
    (calls : Nat → EgressCall μ σ τ) (readings : Nat → Readings υ ρ)
    (transport : EndpointTransport) (display : CallError → String) (acts : List (DeployedAct υ ρ))
    (s : Deployed υ μ σ τ ρ)
    (ran : Runs.run (step client payloads calls transport display) (.start readings) acts =
      some s) :
    (∃ own, Runs.run (client.step payloads calls) (.start readings) own = some s.stack) ∧
    (∀ n k call, s.stack.handed[n]? = some (k, call) →
      AttemptAt transport display n call
        ((s.stack.future k).readings.answers (attemptRank s.stack.handed n k))
        (Current s.stack n k) (selections acts n) (s.endpoint.phase n) (s.endpoint.notesOf n)) ∧
    (∀ n, s.stack.handed.length ≤ n → selections acts n = [] ∧ s.endpoint.notesOf n = []) ∧
    (s.endpoint.notes.filterMap DispatchNote.asSent).length ≤
      client.retry.config.maxAttempts.toNat * (letThrough s.stack.pool.log).length := by
  have joined : Joined client payloads calls transport display acts s :=
    joined_run roundTrips ran
  refine ⟨Runs.run_simulation Deployed.stack (fun _ _ _ => step_stack) ran, joined.attempts,
    fun n outside => ?_, ?_⟩
  · obtain ⟨unmade, -, nothing⟩ := joined.unmade n outside
    exact ⟨unmade, nothing⟩
  · exact Nat.le_trans joined.sents_le joined.stack.load.2

namespace ThreeBackends

/-- The first attempt of call 1 does not reach its backend, no backend is up for the second,
and the third is answered. -/
def acts : List (DeployedAct Unit (List UInt8)) :=
  [.stack (.breaker (.next 1)), .stack (.breaker (.next 1)), .stack (.breaker (.next 1)),
    .stack (.poll 1), .dispatch 0 (.ok ⟨"1", "https://a"⟩) (),
    .answer 0 (.error (.transport "/test.Peer/Echo" .unavailable "reset")) (),
    .stack (.poll 1), .dispatch 1 (.error "no backend is up") (),
    .stack (.poll 1), .dispatch 2 (.ok ⟨"2", "https://b"⟩) (), .answer 2 (.ok [8]) ()]

/-- What the loop is told of the first and of the second. -/
def reset : CallError := .transport "/test.Peer/Echo" .unavailable "reset"

def noBackend : CallError := .transport "/test.Peer/Echo" .unavailable "no backend is up"

end ThreeBackends

open TwoCalls ThreeBackends in
/-- `deployed_attempts` for the three attempts: the first and the last go to the clients of
the two backends, and none is selected for the one between. -/
theorem deployed_attempts_three :
    ∃ s one two, Runs.run (step client payloads calls DispatchExample.client.endpoint
        fun _ => "reset") (.start readings) acts = some s ∧
      one.endpoint = "https://a" ∧ two.endpoint = "https://b" ∧
      AttemptAt DispatchExample.client.endpoint (fun _ => "reset") 0 SecondAttempt.call
        (.error reset : Except CallError (List UInt8)) (Current s.stack 0 1)
        [.ok ⟨"1", "https://a"⟩] .done
        [.sent 0 one SecondAttempt.call, .reported 0 "1" (.failure "reset"),
          .ended 0 (.error reset)] ∧
      AttemptAt DispatchExample.client.endpoint (fun _ => "reset") 1 SecondAttempt.call
        (.error noBackend : Except CallError (List UInt8)) (Current s.stack 1 1)
        [.error "no backend is up"] .done [.ended 1 (.error noBackend)] ∧
      AttemptAt DispatchExample.client.endpoint (fun _ => "reset") 2 SecondAttempt.call
        (.ok [8] : Except CallError (List UInt8)) (Current s.stack 2 1)
        [.ok ⟨"2", "https://b"⟩] .done
        [.sent 2 two SecondAttempt.call, .reported 2 "2" .success, .ended 2 (.ok [8])] := by
  obtain ⟨s, ran⟩ : ∃ s, Runs.run (step client payloads calls DispatchExample.client.endpoint
      fun _ => "reset") (.start readings) acts = some s := ⟨_, rfl⟩
  have stands := (deployed_attempts client payloads (fun _ => OneAttempt.empty_roundTrips) calls
    readings DispatchExample.client.endpoint (fun _ => "reset") acts s ran).2.1
  cases ran
  exact ⟨_, _, _, rfl, rfl, rfl, stands 0 1 SecondAttempt.call rfl,
    stands 1 1 SecondAttempt.call rfl, stands 2 1 SecondAttempt.call rfl⟩

end GrpcEgress
