import GrpcEgress.Builder.Build

/-!
# When `build` panics

`build` tests the scheme of a target in three places: where plaintext is not allowed, where
a TLS option is set, and where the client is created. The test slices seven bytes off, and
nothing before it has looked at the text of a single endpoint, so an endpoint whose seventh
byte is inside a character makes it panic.

`ReachesCut` says for which options that happens: a target that cuts a character, with
nothing before it that ends the loop that gets there.

1. `build_eq_panicked_iff`, and `build_ne_panicked` with `not_cutsCharacter_of_ascii` for
   endpoints that do no harm;
2. `build_returns_iff`.
-/

namespace GrpcEgress

open Panicking

namespace GrpcEgressBuilderImpl

/-- A target that cuts a character is reached by one of the three loops. Where plaintext is
not allowed, the first plaintext target ends the loop. Where it is, the first one that is
not plaintext ends the loop for a TLS option; the TLS settings that cannot be resolved, or
a client that the engine refuses, end the last loop. -/
def ReachesCut (b : GrpcEgressBuilderImpl) (outside : Outside) : Prop :=
  b.checkValues = .ok () ∧ b.listTargets outside = .ok b.targets ∧
  ((b.plaintextAllowed = false ∧
      Reaches (fun url => ¬CutsCharacter url ∧ ¬PlaintextScheme url) CutsCharacter b.targets) ∨
    (b.plaintextAllowed = true ∧ b.tls ≠ none ∧
      Reaches PlaintextScheme CutsCharacter b.targets) ∨
    (b.plaintextAllowed = true ∧ ∃ tls, b.resolveTls outside = .ok tls ∧
      Reaches (fun url => ¬CutsCharacter url ∧ outside.refused (b.targetOptions tls url) = none)
        CutsCharacter b.targets))

variable {b : GrpcEgressBuilderImpl} {outside : Outside}

/-- With plaintext allowed, the check for a TLS option lets the last loop get to a target
that cuts a character, or panics there itself. -/
theorem refuseTlsOption_of_cut {url : String} (member : url ∈ b.targets)
    (cut : CutsCharacter url) :
    b.refuseTlsOption b.targets = .panicked ∨ b.refuseTlsOption b.targets = .returned () := by
  rcases refuseTlsOption_cases b b.targets with panicked | passed | ⟨-, plaintext, -⟩
  · exact .inl panicked
  · exact .inr passed
  · exact absurd cut (plaintext url member).not_cuts

theorem build_eq_panicked_iff : b.build outside = .panicked ↔ b.ReachesCut outside := by
  rw [build_eq_panicked, ReachesCut]
  refine and_congr Iff.rfl (and_congr Iff.rfl ?_)
  simp only [refusePlaintext_eq_panicked, refusePlaintext_eq_returned,
    refuseTlsOption_eq_panicked, createClients_eq_panicked]
  cases b.plaintextAllowed with
  | false =>
    simp only [true_and, Bool.false_eq_true, false_or, false_and, or_false]
    constructor
    · rintro (cut | ⟨whole, ⟨-, cut⟩ | ⟨-, tls, -, cut⟩⟩)
      · exact cut
      · obtain ⟨url, member, cuts⟩ := cut.exists_mem
        exact absurd cuts (whole url member).1
      · obtain ⟨url, member, cuts⟩ := cut.exists_mem
        exact absurd cuts (whole url member).1
    · exact .inl
  | true =>
    simp only [Bool.true_eq_false, false_and, false_or, true_or, true_and]
    constructor
    · rintro (cut | ⟨-, tls, resolved, cut⟩)
      · exact .inl cut
      · exact .inr ⟨tls, resolved, cut⟩
    · rintro (cut | ⟨tls, resolved, cut⟩)
      · exact .inl cut
      · obtain ⟨url, member, cuts⟩ := cut.exists_mem
        rcases refuseTlsOption_of_cut member cuts with panicked | passed
        · exact .inl (refuseTlsOption_eq_panicked.mp panicked)
        · exact .inr ⟨passed, tls, resolved, cut⟩

/-- Targets that can all be tested. -/
theorem build_ne_panicked (whole : ∀ url ∈ b.targets, ¬CutsCharacter url) :
    b.build outside ≠ .panicked := by
  rw [Ne, build_eq_panicked_iff]
  rintro ⟨-, -, reached⟩
  have cut : ∃ url ∈ b.targets, CutsCharacter url := by
    rcases reached with ⟨-, cut⟩ | ⟨-, -, cut⟩ | ⟨-, tls, -, cut⟩
    · exact cut.exists_mem
    · exact cut.exists_mem
    · exact cut.exists_mem
  obtain ⟨url, member, cuts⟩ := cut
  exact whole url member cuts

end GrpcEgressBuilderImpl

/-- An ASCII endpoint can be tested. -/
theorem not_cutsCharacter_of_ascii {url : String} (ascii : ∀ c ∈ url.toList, c.utf8Size = 1) :
    ¬CutsCharacter url := by
  rintro ⟨long, cut⟩
  rw [Text.byteLength_of_ascii ascii] at long
  refine cut (url.toList.take 7) (List.take_prefix _ _) ?_
  rw [Text.byteLength_of_ascii fun c member => ascii c (List.mem_of_mem_take member)]
  exact List.length_take_of_le long

/-- `build` returned a client or an error. -/
def Returns (b : GrpcEgressBuilderImpl) (outside : Outside) : Prop :=
  (∃ client, b.build outside = .returned client) ∨ ∃ e, b.build outside = .failed e

theorem returns_iff {b : GrpcEgressBuilderImpl} {outside : Outside} :
    Returns b outside ↔ b.build outside ≠ .panicked := by
  unfold Returns
  cases b.build outside with
  | panicked => simp
  | failed e => simp
  | returned client => simp

/-- `build` returns a client or an error, after any calls on the builder for any endpoint,
iff no target that it gets to cuts a character. In particular it does if no target cuts one,
as none does that is ASCII or shorter than seven bytes. -/
theorem build_returns_iff (outside : Outside) (endpoint : String) (calls : List WithCall) :
    (((∃ client, (configured endpoint calls).build outside = .returned client) ∨
      ∃ e, (configured endpoint calls).build outside = .failed e) ↔
    ¬(configured endpoint calls).ReachesCut outside) ∧
    ((∀ url ∈ lastTargets endpoint calls, (∀ c ∈ url.toList, c.utf8Size = 1) ∨
        Text.byteLength url.toList < 7 ∨ ¬CutsCharacter url) →
      (∃ client, (configured endpoint calls).build outside = .returned client) ∨
        ∃ e, (configured endpoint calls).build outside = .failed e) := by
  refine ⟨returns_iff.trans (not_congr GrpcEgressBuilderImpl.build_eq_panicked_iff), fun harmless =>
    returns_iff.mpr (GrpcEgressBuilderImpl.build_ne_panicked fun url target => ?_)⟩
  rw [GrpcEgressBuilderImpl.targets_configured] at target
  rcases harmless url target with ascii | short | whole
  · exact not_cutsCharacter_of_ascii ascii
  · exact fun cuts => absurd cuts.1 (Nat.not_le.mpr short)
  · exact whole

namespace PanicExample

/-- Nothing is refused. -/
def willing : Outside where
  isUri _ := true
  readFile _ := .error "no such file"
  refused _ := none
  poolRefused _ := none

end PanicExample

open PanicExample in
/-- The seventh byte of `http:/é` is the first of the two of its last character. -/
theorem build_panics_on_cut : (configured "http:/é" []).build willing = .panicked ∧
    ¬((∃ client, (configured "http:/é" []).build willing = .returned client) ∨
      ∃ e, (configured "http:/é" []).build willing = .failed e) := by
  have panicked : (configured "http:/é" []).build willing = .panicked := by rfl
  rw [panicked]
  simp

end GrpcEgress
