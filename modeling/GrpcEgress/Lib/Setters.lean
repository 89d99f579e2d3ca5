import Mathlib.Data.List.Induction
import Mathlib.Data.List.Nodup

/-!
# Setters

A builder whose calls set one field each. A later call of a field overwrites an earlier one,
and calls of different fields commute. So what is set after some calls is decided by the last
call of each field, whatever the order of the calls (`foldl_eq_of_last`).

An option that the calls of one field set and no other call touches holds what the last
call of that field gave (`Reads.get_eq_some_iff`).
-/

/-- Calls that set a field of a state. -/
structure Setters (σ κ φ : Type) where
  apply : σ → κ → σ
  field : κ → φ
  overwrites : ∀ s c c', field c = field c' → apply (apply s c) c' = apply s c'
  commutes : ∀ s c c', field c ≠ field c' → apply (apply s c) c' = apply (apply s c') c

namespace Setters

section

variable {σ κ φ : Type} [DecidableEq φ] (S : Setters σ κ φ)

/-- The last call of a field. -/
def last (calls : List κ) (f : φ) : Option κ :=
  (calls.filter fun c => decide (S.field c = f)).getLast?

/-- The calls of the other fields. -/
def without (f : φ) (calls : List κ) : List κ :=
  calls.filter fun c => decide (S.field c ≠ f)

variable {S}

theorem last_append (calls : List κ) (c : κ) (f : φ) :
    S.last (calls ++ [c]) f = if S.field c = f then some c else S.last calls f := by
  unfold last
  rw [List.filter_append, List.filter_cons, List.filter_nil]
  by_cases mine : S.field c = f
  · rw [if_pos mine, if_pos (decide_eq_true mine), List.getLast?_concat]
  · rw [if_neg mine, if_neg (mt of_decide_eq_true mine), List.append_nil]

theorem last_eq_none_iff {calls : List κ} {f : φ} :
    S.last calls f = none ↔ ∀ c ∈ calls, S.field c ≠ f := by
  unfold last
  rw [List.getLast?_eq_none_iff, List.filter_eq_nil_iff]
  simp only [decide_eq_true_eq, ne_eq]

theorem mem_of_last {calls : List κ} {f : φ} {c : κ} (given : S.last calls f = some c) :
    c ∈ calls ∧ S.field c = f := by
  obtain ⟨member, mine⟩ := List.mem_filter.mp (List.mem_of_getLast? given)
  exact ⟨member, of_decide_eq_true mine⟩

/-- Where no field is set twice, its call is the last one. -/
theorem last_eq_some_iff {calls : List κ} (once : (calls.map S.field).Nodup) {f : φ} {c : κ} :
    S.last calls f = some c ↔ c ∈ calls ∧ S.field c = f := by
  refine ⟨mem_of_last, fun ⟨member, mine⟩ => ?_⟩
  cases given : S.last calls f with
  | none => exact absurd mine (last_eq_none_iff.mp given c member)
  | some c' =>
    obtain ⟨member', mine'⟩ := mem_of_last given
    rw [List.inj_on_of_nodup_map once member' member (mine'.trans mine.symm)]

/-- The order of calls of different fields does not matter. -/
theorem last_of_perm {calls calls' : List κ} (perm : calls.Perm calls')
    (once : (calls.map S.field).Nodup) : S.last calls = S.last calls' := by
  have once' : (calls'.map S.field).Nodup := (perm.map S.field).nodup_iff.mp once
  funext f
  refine Option.ext fun c => ?_
  rw [last_eq_some_iff once, last_eq_some_iff once', perm.mem_iff]

theorem without_append (calls : List κ) (c : κ) (f : φ) :
    S.without f (calls ++ [c]) =
      if S.field c = f then S.without f calls else S.without f calls ++ [c] := by
  unfold without
  rw [List.filter_append, List.filter_cons, List.filter_nil]
  by_cases mine : S.field c = f
  · rw [if_pos mine, if_neg (mt of_decide_eq_true (not_not_intro mine)), List.append_nil]
  · rw [if_neg mine, if_pos (decide_eq_true mine)]

theorem last_without (calls : List κ) (f g : φ) :
    S.last (S.without g calls) f = if f = g then none else S.last calls f := by
  split
  · next same =>
    refine last_eq_none_iff.mpr fun c member => ?_
    rw [same]
    exact of_decide_eq_true (List.mem_filter.mp member).2
  · next other =>
    unfold last without
    rw [List.filter_filter]
    congr 1
    refine List.filter_congr fun c _ => ?_
    by_cases mine : S.field c = f
    · simp [mine, other]
    · simp [mine]

/-- The last call of a field makes the earlier ones superfluous. -/
theorem apply_foldl (calls : List κ) (c : κ) (s : σ) :
    S.apply (calls.foldl S.apply s) c =
      S.apply ((S.without (S.field c) calls).foldl S.apply s) c := by
  induction calls using List.reverseRecOn with
  | nil => rfl
  | append_singleton calls c' ih =>
    rw [List.foldl_append, List.foldl_cons, List.foldl_nil, without_append]
    split
    · next mine => rw [S.overwrites _ c' c mine, ih]
    · next other =>
      rw [List.foldl_append, List.foldl_cons, List.foldl_nil, S.commutes _ c' c other, ih,
        S.commutes _ c' c other]

/-- The last call of a field may as well be the last call of all, and the only one of that
field. -/
theorem foldl_last {calls : List κ} {f : φ} {c : κ} (given : S.last calls f = some c) (s : σ) :
    calls.foldl S.apply s = S.apply ((S.without f calls).foldl S.apply s) c := by
  obtain ⟨-, rfl⟩ := mem_of_last given
  induction calls using List.reverseRecOn with
  | nil => cases given
  | append_singleton calls c' ih =>
    rw [last_append] at given
    rw [List.foldl_append, List.foldl_cons, List.foldl_nil, without_append]
    split at given
    · next mine =>
      cases given
      rw [if_pos mine, apply_foldl]
    · next other =>
      rw [if_neg other, List.foldl_append, List.foldl_cons, List.foldl_nil, ih given,
        S.commutes _ c c' (Ne.symm other)]

/-- Calls with the same last call of each field set the same. The induction takes the last
call, and with it the calls of its field, from both. -/
theorem foldl_eq_of_last {calls calls' : List κ} (same : S.last calls = S.last calls') (s : σ) :
    calls.foldl S.apply s = calls'.foldl S.apply s := by
  induction length : calls.length using Nat.strongRecOn generalizing calls calls' with
  | ind n ih =>
    subst length
    cases calls using List.reverseRecOn with
    | nil =>
      cases calls' with
      | nil => rfl
      | cons c rest =>
        have never := last_eq_none_iff.mp (congrFun same (S.field c)).symm
        exact absurd rfl (never c List.mem_cons_self)
    | append_singleton calls c =>
      have given : S.last (calls ++ [c]) (S.field c) = some c := by
        rw [last_append, if_pos rfl]
      rw [foldl_last given, foldl_last ((congrFun same _).symm.trans given)]
      congr 1
      refine ih _ ?_ ?_ rfl
      · rw [without_append, if_pos rfl, List.length_append]
        exact Nat.lt_succ_of_le (List.length_filter_le _ _)
      · funext f
        rw [last_without, last_without, same]

/-! ## What is set -/

/-- An option of the state that is set by the calls `make` of one field, to what `store`
makes of their argument, and by no other call. -/
structure Reads {α β : Type} (S : Setters σ κ φ) (get : σ → Option β) (f : φ) (make : α → κ)
    (store : α → β) : Prop where
  of_field : ∀ c, S.field c = f → ∃ a, c = make a
  get_make : ∀ s a, get (S.apply s (make a)) = some (store a)
  get_other : ∀ s c, S.field c ≠ f → get (S.apply s c) = get s

namespace Reads

variable {α β : Type} {get : σ → Option β} {f : φ} {make : α → κ} {store : α → β}

/-- It holds what the last of these calls gave. -/
theorem get_eq_some_iff (reads : S.Reads get f make store) {s : σ} (unset : get s = none)
    {calls : List κ} {b : β} : get (calls.foldl S.apply s) = some b ↔
      ∃ a, S.last calls f = some (make a) ∧ store a = b := by
  induction calls using List.reverseRecOn with
  | nil =>
    constructor
    · intro holds
      cases unset.symm.trans holds
    · rintro ⟨a, given, -⟩
      cases given
  | append_singleton calls c ih =>
    rw [List.foldl_append, List.foldl_cons, List.foldl_nil, last_append]
    split
    · next mine =>
      obtain ⟨a, rfl⟩ := reads.of_field c mine
      rw [reads.get_make]
      constructor
      · intro same
        exact ⟨a, rfl, Option.some.inj same⟩
      · rintro ⟨a', same, rfl⟩
        rw [← reads.get_make s a, ← reads.get_make s a', Option.some.inj same]
    · next other => rw [reads.get_other _ c other, ih]

theorem get_eq_none_iff (reads : S.Reads get f make store) {s : σ} (unset : get s = none)
    {calls : List κ} : get (calls.foldl S.apply s) = none ↔ S.last calls f = none := by
  rw [Option.eq_none_iff_forall_ne_some, Option.eq_none_iff_forall_ne_some]
  constructor
  · intro unheld c given
    obtain ⟨a, rfl⟩ := reads.of_field c (mem_of_last given).2
    exact unheld _ ((reads.get_eq_some_iff unset).mpr ⟨a, given, rfl⟩)
  · intro unheld b holds
    obtain ⟨a, given, -⟩ := (reads.get_eq_some_iff unset).mp holds
    exact unheld _ given

end Reads

end

end Setters
