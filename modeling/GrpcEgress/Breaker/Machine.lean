import GrpcEgress.Contract.Values

/-!
# The breaker's policy and its state machine

`GrpcBreakerConfig` with the checks of `try_new`, and the state a breaker shares
between its calls. The transitions themselves are those of a crate the workspace
depends on, so they are a parameter: `BreakerTransition` is any pair of functions
with the types the decorator calls, and `Documented` says that it is the
three-state machine of the crate documentation. `threeState` is one such machine.

Results:
1. `tryNew_toFields`: every policy is one that `tryNew` accepts;
2. `threeState_documented`: the laws of `Documented` can be met.
-/

namespace GrpcEgress

/-- `GrpcBreakerConfig`: a checked policy. -/
structure GrpcBreakerConfig where
  enabled : Bool
  failureThreshold : UInt32
  coolDownSeconds : UInt64
  halfOpenProbeCount : UInt32
  failureThreshold_pos : failureThreshold ≠ 0
  halfOpenProbeCount_pos : halfOpenProbeCount ≠ 0

namespace GrpcBreakerConfig

/-- `GrpcBreakerConfig::try_new`. -/
def tryNew (enabled : Bool) (failureThreshold : UInt32) (coolDownSeconds : UInt64)
    (halfOpenProbeCount : UInt32) : Except PolicyError GrpcBreakerConfig :=
  if h1 : failureThreshold = 0 then
    .error (.invalidConfig "failure_threshold must be >= 1")
  else if h2 : halfOpenProbeCount = 0 then
    .error (.invalidConfig "half_open_probe_count must be >= 1")
  else .ok ⟨enabled, failureThreshold, coolDownSeconds, halfOpenProbeCount, h1, h2⟩

/-- `GrpcBreakerConfig::default`. -/
def default : GrpcBreakerConfig where
  enabled := true
  failureThreshold := 5
  coolDownSeconds := 30
  halfOpenProbeCount := 1
  failureThreshold_pos := u32_five_ne_zero
  halfOpenProbeCount_pos := u32_one_ne_zero

/-- Every policy is accepted, from its own values. -/
theorem tryNew_toFields (cfg : GrpcBreakerConfig) :
    tryNew cfg.enabled cfg.failureThreshold cfg.coolDownSeconds cfg.halfOpenProbeCount =
      .ok cfg := by
  obtain ⟨enabled, threshold, coolDown, probes, h1, h2⟩ := cfg
  simp only [tryNew, h1, h2, dite_false]

/-- A request is accepted iff both counts are positive. -/
theorem tryNew_ok_iff (enabled : Bool) (threshold : UInt32) (coolDown : UInt64)
    (probes : UInt32) : (∃ cfg, tryNew enabled threshold coolDown probes = .ok cfg) ↔
      threshold ≠ 0 ∧ probes ≠ 0 := by
  constructor
  · rintro ⟨cfg, h⟩
    unfold tryNew at h
    split at h
    · cases h
    · next h1 =>
      split at h
      · cases h
      · next h2 => exact ⟨h1, h2⟩
  · rintro ⟨h1, h2⟩
    exact ⟨_, tryNew_toFields ⟨enabled, threshold, coolDown, probes, h1, h2⟩⟩

end GrpcBreakerConfig

/-- `BreakerConfig` of the state machine. -/
structure BreakerConfig where
  failureThreshold : UInt32
  coolDownSeconds : UInt64
  halfOpenProbeCount : UInt32

/-- `From<GrpcBreakerConfig> for BreakerConfig`: all but `enabled`. -/
def GrpcBreakerConfig.toBreakerConfig (cfg : GrpcBreakerConfig) : BreakerConfig :=
  ⟨cfg.failureThreshold, cfg.coolDownSeconds, cfg.halfOpenProbeCount⟩

/-- The cool-down on the clock of the state machine, in nanoseconds. -/
def BreakerConfig.coolDown (cfg : BreakerConfig) : Nat := cfg.coolDownSeconds.toNat * 1000000000

/-- `BreakerState`. An open circuit knows when it opened. -/
inductive BreakerState where
  | closed
  | opened (since : Nat)
  | halfOpen
deriving DecidableEq, Repr

/-- `BreakerNode`: what the calls of a breaker share. -/
structure BreakerNode where
  state : BreakerState
  consecutiveFailures : Nat
  consecutiveSuccesses : Nat
deriving DecidableEq, Repr

/-- The node a breaker starts with. -/
def BreakerNode.start : BreakerNode := ⟨.closed, 0, 0⟩

/-- `Admission`. -/
inductive Admission where
  | proceed | rejectOpen
deriving DecidableEq, Repr

/-- `Outcome`. -/
inductive Outcome where
  | success | failure
deriving DecidableEq, Repr

/-- `BreakerTransition`: both functions read the clock and may fail with a text. Lean
keeps the word `admit` for itself, so that one is `admitCall`. -/
structure BreakerTransition where
  admitCall : BreakerNode → BreakerConfig → Nat → Except String (BreakerNode × Admission)
  record : BreakerNode → BreakerConfig → Outcome → Nat → Except String BreakerNode

namespace BreakerTransition

/-- The documented three-state machine. A closed circuit lets calls through,
counts consecutive failures and opens at the threshold. An open one refuses until
the cool-down has passed and then becomes half-open with no success counted. A
half-open one lets calls through, closes after enough consecutive successes and
opens again on a failure. A record that finds the circuit open leaves it open. -/
structure Documented (m : BreakerTransition) : Prop where
  admit_closed : ∀ node cfg now, node.state = .closed →
    m.admitCall node cfg now = .ok (node, .proceed)
  admit_cooling : ∀ node cfg now since, node.state = .opened since → now < since + cfg.coolDown →
    ∃ node', m.admitCall node cfg now = .ok (node', .rejectOpen) ∧ node'.state = .opened since
  admit_cooled : ∀ node cfg now since, node.state = .opened since → since + cfg.coolDown ≤ now →
    ∃ node', m.admitCall node cfg now = .ok (node', .proceed) ∧ node'.state = .halfOpen ∧
      node'.consecutiveSuccesses = 0
  admit_halfOpen : ∀ node cfg now, node.state = .halfOpen →
    m.admitCall node cfg now = .ok (node, .proceed)
  record_closed_success : ∀ node cfg now, node.state = .closed →
    ∃ node', m.record node cfg .success now = .ok node' ∧ node'.state = .closed ∧
      node'.consecutiveFailures = 0
  record_closed_failure : ∀ node cfg now, node.state = .closed →
    ∃ node', m.record node cfg .failure now = .ok node' ∧
      if node.consecutiveFailures + 1 < cfg.failureThreshold.toNat then
        node'.state = .closed ∧ node'.consecutiveFailures = node.consecutiveFailures + 1
      else node'.state = .opened now
  record_open : ∀ node cfg outcome now since, node.state = .opened since →
    ∃ node', m.record node cfg outcome now = .ok node' ∧ node'.state = .opened since
  record_halfOpen_success : ∀ node cfg now, node.state = .halfOpen →
    ∃ node', m.record node cfg .success now = .ok node' ∧
      if node.consecutiveSuccesses + 1 < cfg.halfOpenProbeCount.toNat then
        node'.state = .halfOpen ∧ node'.consecutiveSuccesses = node.consecutiveSuccesses + 1
      else node'.state = .closed
  record_halfOpen_failure : ∀ node cfg now, node.state = .halfOpen →
    ∃ node', m.record node cfg .failure now = .ok node' ∧ node'.state = .opened now

section

variable {m : BreakerTransition} {node node' : BreakerNode} {cfg : BreakerConfig} {now : Nat}

/-- What an `admit` can do: let the call through and change nothing, refuse it, or
make an open circuit half-open. -/
theorem Documented.admit_cases (documented : m.Documented) {admission : Admission}
    (h : m.admitCall node cfg now = .ok (node', admission)) :
    (admission = .proceed ∧ node' = node ∧ ∀ since, node.state ≠ .opened since) ∨
    (admission = .rejectOpen ∧ ∃ since, node.state = .opened since ∧
      node'.state = .opened since) ∨
    (admission = .proceed ∧ ∃ since, node.state = .opened since ∧ since + cfg.coolDown ≤ now ∧
      node'.state = .halfOpen ∧ node'.consecutiveSuccesses = 0) := by
  cases was : node.state with
  | closed =>
    rw [documented.admit_closed node cfg now was] at h
    cases h
    exact .inl ⟨rfl, rfl, fun since => nofun⟩
  | halfOpen =>
    rw [documented.admit_halfOpen node cfg now was] at h
    cases h
    exact .inl ⟨rfl, rfl, fun since => nofun⟩
  | opened since =>
    -- An open circuit asks the clock whether its cool-down has passed.
    by_cases late : since + cfg.coolDown ≤ now
    · obtain ⟨half, asked, state, none⟩ := documented.admit_cooled node cfg now since was late
      rw [asked] at h
      cases h
      exact .inr (.inr ⟨rfl, since, rfl, late, state, none⟩)
    · obtain ⟨still, asked, state⟩ :=
        documented.admit_cooling node cfg now since was (Nat.not_le.mp late)
      rw [asked] at h
      cases h
      exact .inr (.inl ⟨rfl, since, rfl, state⟩)

/-- What a `record` can do: keep a closed circuit closed, open the circuit, leave
an open one open, count a success of a half-open one, or close that. -/
theorem Documented.record_cases (documented : m.Documented) {outcome : Outcome}
    (h : m.record node cfg outcome now = .ok node') :
    (node.state = .closed ∧ node'.state = .closed) ∨
    ((∀ since, node.state ≠ .opened since) ∧ node'.state = .opened now) ∨
    (∃ since, node.state = .opened since ∧ node'.state = .opened since) ∨
    (outcome = .success ∧ node.state = .halfOpen ∧ node'.state = .halfOpen ∧
      node'.consecutiveSuccesses = node.consecutiveSuccesses + 1) ∨
    (outcome = .success ∧ node.state = .halfOpen ∧ node'.state = .closed ∧
      cfg.halfOpenProbeCount.toNat ≤ node.consecutiveSuccesses + 1) := by
  cases was : node.state with
  | opened since =>
    obtain ⟨still, recorded, state⟩ := documented.record_open node cfg outcome now since was
    rw [recorded] at h
    cases h
    exact .inr (.inr (.inl ⟨since, rfl, state⟩))
  | closed =>
    cases outcome with
    | success =>
      obtain ⟨after, recorded, state, _⟩ := documented.record_closed_success node cfg now was
      rw [recorded] at h
      cases h
      exact .inl ⟨rfl, state⟩
    | failure =>
      obtain ⟨after, recorded, moved⟩ := documented.record_closed_failure node cfg now was
      rw [recorded] at h
      cases h
      -- The failure stays below the threshold or opens the circuit.
      split at moved
      · exact .inl ⟨rfl, moved.1⟩
      · exact .inr (.inl ⟨fun since => nofun, moved⟩)
  | halfOpen =>
    cases outcome with
    | success =>
      obtain ⟨after, recorded, moved⟩ := documented.record_halfOpen_success node cfg now was
      rw [recorded] at h
      cases h
      split at moved
      · exact .inr (.inr (.inr (.inl ⟨rfl, rfl, moved⟩)))
      · next enough => exact .inr (.inr (.inr (.inr ⟨rfl, rfl, moved, Nat.not_lt.mp enough⟩)))
    | failure =>
      obtain ⟨after, recorded, state⟩ := documented.record_halfOpen_failure node cfg now was
      rw [recorded] at h
      cases h
      exact .inr (.inl ⟨fun since => nofun, state⟩)

end

/-- A three-state machine that never fails. -/
def threeState : BreakerTransition where
  admitCall node cfg now :=
    match node.state with
    | .closed => .ok (node, .proceed)
    | .halfOpen => .ok (node, .proceed)
    | .opened since =>
      if since + cfg.coolDown ≤ now then .ok (⟨.halfOpen, 0, 0⟩, .proceed)
      else .ok (node, .rejectOpen)
  record node cfg outcome now :=
    match node.state, outcome with
    | .closed, .success => .ok ⟨.closed, 0, 0⟩
    | .closed, .failure =>
      if node.consecutiveFailures + 1 < cfg.failureThreshold.toNat then
        .ok ⟨.closed, node.consecutiveFailures + 1, 0⟩
      else .ok ⟨.opened now, 0, 0⟩
    | .opened _, _ => .ok node
    | .halfOpen, .success =>
      if node.consecutiveSuccesses + 1 < cfg.halfOpenProbeCount.toNat then
        .ok ⟨.halfOpen, 0, node.consecutiveSuccesses + 1⟩
      else .ok ⟨.closed, 0, 0⟩
    | .halfOpen, .failure => .ok ⟨.opened now, 0, 0⟩

theorem threeState_documented : threeState.Documented where
  admit_closed node cfg now h := by simp only [threeState, h]
  admit_cooling node cfg now since h early := by
    refine ⟨node, ?_, h⟩
    simp only [threeState, h, Nat.not_le.mpr early, if_false]
  admit_cooled node cfg now since h late := by
    refine ⟨⟨.halfOpen, 0, 0⟩, ?_, rfl, rfl⟩
    simp only [threeState, h, late, if_true]
  admit_halfOpen node cfg now h := by simp only [threeState, h]
  record_closed_success node cfg now h := by
    refine ⟨⟨.closed, 0, 0⟩, ?_, rfl, rfl⟩
    simp only [threeState, h]
  record_closed_failure node cfg now h := by
    simp only [threeState, h]
    split
    · exact ⟨_, rfl, rfl, rfl⟩
    · exact ⟨_, rfl, rfl⟩
  record_open node cfg outcome now since h := by
    refine ⟨node, ?_, h⟩
    simp only [threeState, h]
  record_halfOpen_success node cfg now h := by
    simp only [threeState, h]
    split
    · exact ⟨_, rfl, rfl, rfl⟩
    · exact ⟨_, rfl, rfl⟩
  record_halfOpen_failure node cfg now h := by
    refine ⟨⟨.opened now, 0, 0⟩, ?_, rfl⟩
    simp only [threeState, h]

end BreakerTransition

/-- One failure opens the circuit for a second, and one probe closes it. -/
def oneFailureConfig : GrpcBreakerConfig :=
  ⟨true, 1, 1, 1, u32_one_ne_zero, u32_one_ne_zero⟩

end GrpcEgress
