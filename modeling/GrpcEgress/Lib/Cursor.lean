/-!
# Readers with a cursor

A reader takes items from where the cursor of its state stands and moves the cursor behind
them; it may also fail, and leave the cursor where it is then. `Reads x L` says which items
a reader `x` takes and what it makes of them, as a relation `L` between items and results:
`x` returns `a` if and only if some items in front of the cursor are related to `a`, and it
never moves the cursor past the end.

Results:
1. `Reads.pure`, `Reads.bind`, `Reads.refuse`, `Reads.map`: readers made of readers;
2. `Items`: what finds nothing at the end and reads an item otherwise; `Items.bind`;
3. `whileSome`: the loop `while let Some(..) = step()?`, which ends when its rounds come
   nearer to the end; `whileSome_ok` is what it reads when its rounds are such items.
-/

/-- A state whose cursor stands in a list of items, `rest` of which are in front of it. A
state is `valid` when the cursor has not passed the end, and whatever else a reader relies on. -/
class Cursor (σ : Type) (τ : outParam Type) where
  rest : σ → List τ
  advance : Nat → σ → σ
  valid : σ → Prop
  advance_zero : ∀ s, advance 0 s = s
  advance_add : ∀ m n s, advance n (advance m s) = advance (m + n) s
  rest_advance : ∀ n s, rest (advance n s) = (rest s).drop n
  valid_advance : ∀ n s, valid s → n ≤ (rest s).length → valid (advance n s)

namespace Cursor

variable {σ τ ε α β : Type} [Cursor σ τ]

/-- What `x` reads. -/
structure Reads (x : EStateM ε σ α) (L : List τ → α → Prop) : Prop where
  sound : ∀ {s a s'}, x s = .ok a s' →
    ∃ front, front <+: rest s ∧ L front a ∧ s' = advance front.length s
  complete : ∀ {s a front}, valid s → front <+: rest s → L front a →
    x s = .ok a (advance front.length s)
  fails : ∀ {s e s'}, x s = .error e s' → ∃ n ≤ (rest s).length, s' = advance n s

/-- The items in front of the cursor are those that were read and those behind them. -/
theorem prefix_rest_iff {s : σ} {front back : List τ} : front ++ back <+: rest s ↔
    front <+: rest s ∧ back <+: rest (advance front.length s) := by
  constructor
  · rintro ⟨after, whole⟩
    rw [rest_advance, ← whole, List.append_assoc, List.drop_left]
    exact ⟨List.prefix_append _ _, List.prefix_append _ _⟩
  · rintro ⟨⟨after, whole⟩, more⟩
    rw [rest_advance, ← whole, List.drop_left] at more
    rw [← whole]
    exact (List.prefix_append_right_inj front).mpr more

/-- Where a reader stands after the items of another. -/
theorem advance_within {s : σ} {front : List τ} {n : Nat} (read : front <+: rest s)
    (inside : n ≤ (rest (advance front.length s)).length) :
    front.length + n ≤ (rest s).length := by
  have left := read.length_le
  rw [rest_advance, List.length_drop] at inside
  omega

theorem bind_ok {x : EStateM ε σ α} {f : α → EStateM ε σ β} {s s' : σ} {b : β} :
    (x >>= f) s = .ok b s' ↔ ∃ a t, x s = .ok a t ∧ f a t = .ok b s' := by
  show EStateM.bind x f s = .ok b s' ↔ _
  unfold EStateM.bind
  cases x s <;> simp [and_assoc]

theorem bind_error {x : EStateM ε σ α} {f : α → EStateM ε σ β} {s s' : σ} {e : ε} :
    (x >>= f) s = .error e s' ↔
      x s = .error e s' ∨ ∃ a t, x s = .ok a t ∧ f a t = .error e s' := by
  show EStateM.bind x f s = .error e s' ↔ _
  unfold EStateM.bind
  cases x s <;> simp [and_assoc]

namespace Reads

theorem pure (a : α) :
    Reads (Pure.pure a : EStateM ε σ α) fun front b => front = [] ∧ a = b where
  sound := by
    rintro s b s' ⟨⟩
    exact ⟨[], List.nil_prefix, ⟨rfl, rfl⟩, (advance_zero s).symm⟩
  complete := by
    rintro s b front - - ⟨rfl, rfl⟩
    exact congrArg _ (advance_zero s).symm
  fails := nofun

/-- A reader that fails where it stands. -/
theorem refuse (e : σ → ε) :
    Reads (fun s => .error (e s) s : EStateM ε σ α) fun _ _ => False where
  sound := nofun
  complete := fun _ _ => False.elim
  fails := by
    rintro s e s' ⟨⟩
    exact ⟨0, Nat.zero_le _, (advance_zero s).symm⟩

/-- One reader after another: the items of both, in order. -/
theorem bind {x : EStateM ε σ α} {f : α → EStateM ε σ β} {L : List τ → α → Prop}
    {M : α → List τ → β → Prop} (first : Reads x L) (second : ∀ a, Reads (f a) (M a)) :
    Reads (x >>= f) fun items b =>
      ∃ front back a, items = front ++ back ∧ L front a ∧ M a back b where
  sound := by
    intro s b s' ran
    obtain ⟨a, t, started, went⟩ := bind_ok.mp ran
    obtain ⟨front, read, left, rfl⟩ := first.sound started
    obtain ⟨back, more, right, rfl⟩ := (second a).sound went
    refine ⟨front ++ back, prefix_rest_iff.mpr ⟨read, more⟩, ⟨front, back, a, rfl, left, right⟩, ?_⟩
    rw [advance_add, List.length_append]
  complete := by
    rintro s b items ok whole ⟨front, back, a, rfl, left, right⟩
    obtain ⟨read, more⟩ := prefix_rest_iff.mp whole
    refine bind_ok.mpr ⟨a, _, first.complete ok read left, ?_⟩
    rw [(second a).complete (valid_advance _ s ok read.length_le) more right, advance_add,
      List.length_append]
  fails := by
    intro s e s' ran
    rcases bind_error.mp ran with failed | ⟨a, t, started, failed⟩
    · exact first.fails failed
    · obtain ⟨front, read, -, rfl⟩ := first.sound started
      obtain ⟨n, inside, rfl⟩ := (second a).fails failed
      exact ⟨front.length + n, advance_within read inside, advance_add _ _ s⟩

/-- The same items, described otherwise. -/
theorem congr {x : EStateM ε σ α} {L M : List τ → α → Prop} (h : Reads x L)
    (same : ∀ front a, L front a ↔ M front a) : Reads x M where
  sound := by
    intro s a s' ran
    obtain ⟨front, read, related, moved⟩ := h.sound ran
    exact ⟨front, read, (same _ _).mp related, moved⟩
  complete := fun ok read related => h.complete ok read ((same _ _).mpr related)
  fails := h.fails

/-- A reader with a function of its result. -/
theorem map {x : EStateM ε σ α} {L : List τ → α → Prop} (h : Reads x L) (g : α → β) :
    Reads (x >>= fun a => Pure.pure (g a)) fun front b => ∃ a, L front a ∧ g a = b :=
  (h.bind fun a => .pure (g a)).congr fun front b => by
    constructor
    · rintro ⟨front, _, a, rfl, related, rfl, same⟩
      exact ⟨a, (List.append_nil front).symm ▸ related, same⟩
    · rintro ⟨a, related, same⟩
      exact ⟨front, [], a, (List.append_nil front).symm, related, rfl, same⟩

end Reads

/-! ## Items until the end -/

/-- `next` finds nothing at the end only, and otherwise reads an item as `L` says. -/
structure Items (next : EStateM ε σ (Option α)) (L : List τ → α → Prop) : Prop where
  ends : ∀ {s s'}, valid s → (next s = .ok none s' ↔ rest s = [] ∧ s' = s)
  sound : ∀ {s a s'}, next s = .ok (some a) s' →
    ∃ front, front <+: rest s ∧ L front a ∧ s' = advance front.length s
  complete : ∀ {s a front}, valid s → front <+: rest s → L front a →
    next s = .ok (some a) (advance front.length s)
  fails : ∀ {s e s'}, next s = .error e s' → ∃ n ≤ (rest s).length, s' = advance n s

theorem Items.congr {next : EStateM ε σ (Option α)} {L M : List τ → α → Prop}
    (h : Items next L) (same : ∀ front a, L front a ↔ M front a) : Items next M where
  ends := h.ends
  sound := by
    intro s a s' ran
    obtain ⟨front, read, related, moved⟩ := h.sound ran
    exact ⟨front, read, (same _ _).mp related, moved⟩
  complete := fun ok read related => h.complete ok read ((same _ _).mpr related)
  fails := h.fails

/-- An item that is not empty leaves less to read. -/
theorem Items.nearer {next : EStateM ε σ (Option α)} {L : List τ → α → Prop}
    (items : Items next L) (filled : ∀ {front a}, L front a → 0 < front.length) {s s' : σ}
    {a : α} (ran : next s = .ok (some a) s') : (rest s').length < (rest s).length := by
  obtain ⟨front, read, related, rfl⟩ := items.sound ran
  have positive := filled related
  have left := read.length_le
  rw [rest_advance, List.length_drop]
  omega

/-- The head of an item, and what comes behind it. -/
theorem Items.bind {next : EStateM ε σ (Option α)} {f : Option α → EStateM ε σ (Option β)}
    {L : List τ → α → Prop} {M : α → List τ → β → Prop} (head : Items next L)
    (nothing : f none = Pure.pure none)
    (body : ∀ a, Reads (f (some a)) fun back out => ∃ b, out = some b ∧ M a back b) :
    Items (next >>= f) fun items b =>
      ∃ front back a, items = front ++ back ∧ L front a ∧ M a back b where
  ends := by
    intro s s' ok
    rw [bind_ok, ← head.ends ok]
    constructor
    · rintro ⟨_ | a, t, found, went⟩
      · rw [nothing] at went
        cases went
        exact found
      · obtain ⟨back, -, ⟨b, some, -⟩, -⟩ := (body a).sound went
        cases some
    · intro ended
      exact ⟨none, s', ended, by rw [nothing]; rfl⟩
  sound := by
    intro s b s' ran
    obtain ⟨_ | a, t, found, went⟩ := bind_ok.mp ran
    · rw [nothing] at went
      cases went
    · obtain ⟨front, read, left, rfl⟩ := head.sound found
      obtain ⟨back, more, ⟨_, ⟨⟩, right⟩, rfl⟩ := (body a).sound went
      refine ⟨front ++ back, prefix_rest_iff.mpr ⟨read, more⟩,
        ⟨front, back, a, rfl, left, right⟩, ?_⟩
      rw [advance_add, List.length_append]
  complete := by
    rintro s b items ok whole ⟨front, back, a, rfl, left, right⟩
    obtain ⟨read, more⟩ := prefix_rest_iff.mp whole
    refine bind_ok.mpr ⟨some a, _, head.complete ok read left, ?_⟩
    rw [(body a).complete (valid_advance _ s ok read.length_le) more ⟨b, rfl, right⟩,
      advance_add, List.length_append]
  fails := by
    intro s e s' ran
    rcases bind_error.mp ran with failed | ⟨_ | a, t, found, failed⟩
    · exact head.fails failed
    · rw [nothing] at failed
      cases failed
    · obtain ⟨front, read, -, rfl⟩ := head.sound found
      obtain ⟨n, inside, rfl⟩ := (body a).fails failed
      exact ⟨front.length + n, advance_within read inside, advance_add _ _ s⟩

/-! ## Loops -/

/-- `while let Some(a) = step(a)?`: rounds until `step` finds nothing. Each round brings the
state nearer to the end. -/
def whileSome (step : α → EStateM ε σ (Option α)) (left : σ → Nat)
    (nearer : ∀ {a s a' s'}, step a s = .ok (some a') s' → left s' < left s) (a : α) :
    EStateM ε σ α := fun s =>
  match round : step a s with
  | .error e s' => .error e s'
  | .ok none s' => .ok a s'
  | .ok (some a') s' =>
    have : left s' < left s := nearer round
    whileSome step left nearer a' s'
termination_by s => left s
decreasing_by assumption

/-- The tops of the rounds that a loop from `a` and `s` makes. -/
inductive Tops (step : α → EStateM ε σ (Option α)) (a : α) (s : σ) : α → σ → Prop
  | start : Tops step a s a s
  | next {b c t u} : Tops step a s b t → step b t = .ok (some c) u → Tops step a s c u

/-- Items in chunks, each of which takes one `α` to the next as `L` says. -/
inductive Rounds (L : α → List τ → α → Prop) : α → List τ → α → Prop
  | done {a} : Rounds L a [] a
  | round {a b c front back} : L a front b → Rounds L b back c → Rounds L a (front ++ back) c

section Loop

variable {step : α → EStateM ε σ (Option α)} {L : α → List τ → α → Prop} {left : σ → Nat}
  {nearer : ∀ {a s a' s'}, step a s = .ok (some a') s' → left s' < left s}

theorem whileSome_none {a : α} {s s' : σ} (ended : step a s = .ok none s') :
    whileSome step left nearer a s = .ok a s' := by
  rw [whileSome]
  split <;> simp_all

theorem whileSome_some {a b : α} {s t : σ} (went : step a s = .ok (some b) t) :
    whileSome step left nearer a s = whileSome step left nearer b t := by
  rw [whileSome]
  split <;> simp_all

theorem whileSome_error {a : α} {s s' : σ} {e : ε} (failed : step a s = .error e s') :
    whileSome step left nearer a s = .error e s' := by
  rw [whileSome]
  split <;> simp_all

/-- The loop returns if and only if what is left to read is made of rounds, and then with
what the last round made. -/
theorem whileSome_ok (each : ∀ a, Items (step a) (L a)) {a c : α} {s s' : σ} (ok : valid s) :
    whileSome step left nearer a s = .ok c s' ↔
      Rounds L a (rest s) c ∧ s' = advance (rest s).length s := by
  constructor
  · intro ran
    induction h : left s using Nat.strongRecOn generalizing a s with
    | ind n ih =>
      subst h
      cases round : step a s with
      | error e t =>
        rw [whileSome_error round] at ran
        cases ran
      | ok next t =>
        cases next with
        | none =>
          rw [whileSome_none round] at ran
          cases ran
          obtain ⟨finished, rfl⟩ := ((each _).ends ok).mp round
          rw [finished]
          exact ⟨.done, (advance_zero _).symm⟩
        | some b =>
          rw [whileSome_some round] at ran
          obtain ⟨front, read, related, rfl⟩ := (each _).sound round
          obtain ⟨rounds, moved⟩ := ih _ (nearer round)
            (valid_advance _ s ok read.length_le) ran rfl
          obtain ⟨back, whole⟩ := read
          rw [rest_advance, ← whole, List.drop_left] at rounds moved
          refine ⟨whole ▸ .round related rounds, ?_⟩
          rw [moved, advance_add, ← whole, List.length_append]
  · rintro ⟨rounds, rfl⟩
    generalize items : rest s = whole at rounds
    induction rounds generalizing s with
    | done =>
      rw [whileSome_none (((each _).ends ok).mpr ⟨items, rfl⟩)]
      exact congrArg _ (advance_zero s).symm
    | @round a b c front back related _ ih =>
      have read : front <+: rest s := items ▸ List.prefix_append front back
      have behind : rest (advance front.length s) = back := by
        rw [rest_advance, items, List.drop_left]
      rw [whileSome_some ((each _).complete ok read related),
        ih (valid_advance _ s ok read.length_le) behind, advance_add, List.length_append]

theorem Tops.valid (each : ∀ a, Items (step a) (L a)) {a b : α} {s t : σ} (ok : valid s)
    (top : Tops step a s b t) : valid t := by
  induction top with
  | start => exact ok
  | next _ went ih =>
    obtain ⟨front, read, -, rfl⟩ := (each _).sound went
    exact valid_advance _ _ ih read.length_le

theorem Tops.advanced (each : ∀ a, Items (step a) (L a)) {a b : α} {s t : σ}
    (top : Tops step a s b t) : ∃ n, t = advance n s := by
  induction top with
  | start => exact ⟨0, (advance_zero s).symm⟩
  | next _ went ih =>
    obtain ⟨n, rfl⟩ := ih
    obtain ⟨front, -, -, rfl⟩ := (each _).sound went
    exact ⟨n + front.length, advance_add _ _ s⟩

end Loop

end Cursor
