import GrpcEgress.Contract.Values

/-!
# Metadata as it is read and built

`MetadataView` is what a metadata value answers when it is read: the reading of
either list may fail, and so may any single binary entry. A new `Metadata` is built
one entry at a time by the contract crate, which refuses the entries that are not
valid metadata; `MetadataRules` is that refusal, a parameter. A failure is given by
its text, which is all that is made of it.

1. `copy_eq_copied`: a copy holds the entries that were read, in their order, unless one
   cannot be read or is refused; `copy_view_iff`: one of metadata is the same metadata;
2. `append_iff`: an appended entry comes after all the others;
3. `extend_eq`: an extension adds the entries whose keys were not held before it.
-/

namespace GrpcEgress

/-- `MetadataView`. -/
structure MetadataView where
  entries : Except String (List (String × String))
  binaryEntries : Except String (List (Except String (String × List UInt8)))
deriving DecidableEq

/-- A `Metadata` is read without failures. -/
def Metadata.view (m : Metadata) : MetadataView :=
  ⟨.ok m.text, .ok (m.binary.map .ok)⟩

/-- What `MetadataBuilder` and `Metadata` refuse, with the text of the error. -/
structure MetadataRules where
  /-- `append` of a text entry. -/
  textError : String → String → Option String
  /-- `append_binary`. -/
  binaryError : String → List UInt8 → Option String
  /-- `get_values` of a key. -/
  keyError : String → Option String

namespace MetadataRules

variable (rules : MetadataRules)

/-- `MetadataBuilder::append`. -/
def appendText (built : Metadata) (entry : String × String) : Except String Metadata :=
  match rules.textError entry.1 entry.2 with
  | some e => .error e
  | none => .ok { built with text := built.text ++ [entry] }

/-- `MetadataBuilder::append_binary` of an entry that may not be readable. -/
def appendBinary (built : Metadata) (entry : Except String (String × List UInt8)) :
    Except String Metadata :=
  match entry with
  | .error e => .error e
  | .ok entry =>
    match rules.binaryError entry.1 entry.2 with
    | some e => .error e
    | none => .ok { built with binary := built.binary ++ [entry] }

/-- `Metadata::get_values`. -/
def getValues (m : Metadata) (key : String) : Except String (List String) :=
  match rules.keyError key with
  | some e => .error e
  | none => .ok ((m.text.filter fun entry => entry.1 == key).map Prod.snd)

/-- `StdMetadataExtender::copy`, and `start`, which repeats it on a `Metadata`. -/
def copy (source : MetadataView) : Except String Metadata := do
  let entries ← source.entries
  let built ← entries.foldlM rules.appendText .empty
  let binary ← source.binaryEntries
  binary.foldlM rules.appendBinary built

/-- `StdMetadataExtender::append`. -/
def append (source : Metadata) (key value : String) : Except String Metadata := do
  let built ← rules.copy source.view
  rules.appendText built (key, value)

/-- One pass of the loop of `extend`: the key is looked up in the source, not in what has
been built so far. -/
def appendMissing (source built : Metadata) (entry : String × String) : Except String Metadata := do
  let values ← rules.getValues source entry.1
  if values.isEmpty then rules.appendText built entry else .ok built

/-- `StdMetadataExtender::extend`. -/
def extend (source : Metadata) (added : List (String × String)) : Except String Metadata := do
  let built ← rules.copy source.view
  added.foldlM (rules.appendMissing source) built

/-- The metadata is one that the contract crate built: its entries are not refused. -/
structure Built (m : Metadata) : Prop where
  text : ∀ entry ∈ m.text, rules.textError entry.1 entry.2 = none
  binary : ∀ entry ∈ m.binary, rules.binaryError entry.1 entry.2 = none

/-! ## Copies -/

/-- What refuses a binary entry: it cannot be read, or is not valid. -/
def binaryRefused (rules : MetadataRules) (entry : Except String (String × List UInt8)) :
    Option String :=
  match entry with
  | .error e => some e
  | .ok entry => rules.binaryError entry.1 entry.2

/-- What a copy comes to: the first failure of its text, then of its binary entries, or all
that was read. -/
def copied (rules : MetadataRules) (source : MetadataView) : Except String Metadata := do
  let text ← source.entries
  match text.findSome? fun entry => rules.textError entry.1 entry.2 with
  | some e => .error e
  | none =>
    let binary ← source.binaryEntries
    match binary.findSome? rules.binaryRefused with
    | some e => .error e
    | none => .ok ⟨text, binary.filterMap Except.toOption⟩

variable {rules}

theorem appendText_of_valid {built : Metadata} {entry : String × String}
    (valid : rules.textError entry.1 entry.2 = none) :
    rules.appendText built entry = .ok { built with text := built.text ++ [entry] } := by
  simp only [appendText, valid]

theorem appendText_of_invalid {built : Metadata} {entry : String × String} {e : String}
    (invalid : rules.textError entry.1 entry.2 = some e) :
    rules.appendText built entry = .error e := by
  simp only [appendText, invalid]

theorem foldlM_appendText_eq (built : Metadata) (entries : List (String × String)) :
    entries.foldlM rules.appendText built =
      match entries.findSome? fun entry => rules.textError entry.1 entry.2 with
      | some e => .error e
      | none => .ok { built with text := built.text ++ entries } := by
  induction entries generalizing built with
  | nil =>
    rw [List.foldlM_nil, List.append_nil]
    rfl
  | cons entry entries ih =>
    rw [List.foldlM_cons, List.findSome?_cons]
    cases valid : rules.textError entry.1 entry.2 with
    | some e =>
      rw [appendText_of_invalid valid]
      rfl
    | none =>
      rw [appendText_of_valid valid]
      show entries.foldlM rules.appendText _ = _
      rw [ih, List.append_assoc]
      rfl

theorem foldlM_appendBinary_eq (built : Metadata)
    (entries : List (Except String (String × List UInt8))) :
    entries.foldlM rules.appendBinary built =
      match entries.findSome? rules.binaryRefused with
      | some e => .error e
      | none => .ok { built with binary := built.binary ++ entries.filterMap Except.toOption } := by
  induction entries generalizing built with
  | nil =>
    rw [List.foldlM_nil, List.filterMap_nil, List.append_nil]
    rfl
  | cons entry entries ih =>
    rw [List.foldlM_cons, List.findSome?_cons]
    cases entry with
    | error e => rfl
    | ok entry =>
      simp only [appendBinary, binaryRefused]
      cases rules.binaryError entry.1 entry.2 with
      | some e => rfl
      | none =>
        show entries.foldlM rules.appendBinary _ = _
        rw [ih, List.append_assoc]
        rfl

/-- A copy stops at the first failure, and else holds all that was read. -/
theorem copy_eq_copied (source : MetadataView) : rules.copy source = rules.copied source := by
  unfold copy copied
  cases source.entries with
  | error e => rfl
  | ok text =>
    simp only [bind, Except.bind, foldlM_appendText_eq]
    cases text.findSome? fun entry => rules.textError entry.1 entry.2 with
    | some e => rfl
    | none =>
      dsimp only
      cases source.binaryEntries with
      | error e => rfl
      | ok binary =>
        dsimp only
        rw [foldlM_appendBinary_eq]
        rfl

/-- Metadata can be copied iff it was built, and the copy is the same. -/
theorem copy_view_iff {m last : Metadata} :
    rules.copy m.view = .ok last ↔ rules.Built m ∧ last = m := by
  have binaries : (m.binary.map (.ok : _ → Except String _)).filterMap Except.toOption =
      m.binary := by
    rw [List.filterMap_map]
    exact List.filterMap_some
  have text : (m.text.findSome? fun entry => rules.textError entry.1 entry.2) = none ↔
      ∀ entry ∈ m.text, rules.textError entry.1 entry.2 = none := List.findSome?_eq_none_iff
  have binary : (m.binary.map .ok).findSome? rules.binaryRefused = none ↔
      ∀ entry ∈ m.binary, rules.binaryError entry.1 entry.2 = none := by
    rw [List.findSome?_map]
    exact List.findSome?_eq_none_iff
  simp only [copy_eq_copied, copied, Metadata.view, bind, Except.bind, binaries]
  split
  · next e refused =>
    refine ⟨fun copied => (by cases copied), fun ⟨built, _⟩ => ?_⟩
    rw [text.mpr built.text] at refused
    cases refused
  · next valid =>
    split
    · next e refused =>
      refine ⟨fun copied => (by cases copied), fun ⟨built, _⟩ => ?_⟩
      rw [binary.mpr built.binary] at refused
      cases refused
    · next validBinary =>
      constructor
      · intro copied
        cases copied
        exact ⟨⟨text.mp valid, binary.mp validBinary⟩, rfl⟩
      · rintro ⟨-, rfl⟩
        rfl

/-- An entry is appended iff it is valid, and the metadata was built. It is the last text
entry then, and nothing else changes. -/
theorem append_iff {source m : Metadata} {key value : String} :
    rules.append source key value = .ok m ↔ rules.Built source ∧
      rules.textError key value = none ∧
      m = { source with text := source.text ++ [(key, value)] } := by
  simp only [append, bind, Except.bind]
  cases copied : rules.copy source.view with
  | error e =>
    refine ⟨fun appended => (by cases appended), fun ⟨built, _⟩ => ?_⟩
    rw [copy_view_iff.mpr ⟨built, rfl⟩] at copied
    cases copied
  | ok last =>
    obtain ⟨built, rfl⟩ := copy_view_iff.mp copied
    cases valid : rules.textError key value with
    | some e =>
      simp only [appendText, valid]
      exact ⟨fun appended => (by cases appended), fun ⟨_, accepted, _⟩ => (by cases accepted)⟩
    | none =>
      simp only [appendText, valid]
      exact ⟨fun appended => ⟨built, trivial, (Except.ok.inj appended).symm⟩,
        fun ⟨_, _, is⟩ => congrArg _ is.symm⟩

end MetadataRules

/-- The metadata has a text entry with this key. -/
def Metadata.holds (m : Metadata) (key : String) : Bool := m.text.any fun entry => entry.1 == key

namespace MetadataRules

variable (rules : MetadataRules)

/-- What refuses an entry that an extension of `source` comes to: its key cannot be looked
up, or it is to be added and is not valid. -/
def entryRefused (source : Metadata) (entry : String × String) : Option String :=
  match rules.keyError entry.1 with
  | some e => some e
  | none => if source.holds entry.1 then none else rules.textError entry.1 entry.2

/-- The first refusal of an extension. -/
def refused (source : Metadata) (added : List (String × String)) : Option String :=
  added.findSome? (rules.entryRefused source)

/-- The entries that an extension adds. -/
def missing (source : Metadata) (added : List (String × String)) : List (String × String) :=
  added.filter fun entry => !source.holds entry.1

variable {rules}

theorem getValues_isEmpty {m : Metadata} {key : String} (known : rules.keyError key = none) :
    ∃ values, rules.getValues m key = .ok values ∧ values.isEmpty = !m.holds key := by
  refine ⟨_, by rw [getValues, known], ?_⟩
  unfold Metadata.holds
  induction m.text with
  | nil => rfl
  | cons entry entries ih =>
    rw [List.filter_cons, List.any_cons]
    cases same : entry.1 == key with
    | true => rfl
    | false => simpa only [Bool.false_eq_true, if_false, Bool.false_or] using ih

/-- One pass of `extend`. -/
theorem appendMissing_eq (source built : Metadata) (entry : String × String) :
    rules.appendMissing source built entry =
      match rules.entryRefused source entry with
      | some e => .error e
      | none => .ok { built with text := built.text ++ missing source [entry] } := by
  unfold appendMissing entryRefused missing
  cases known : rules.keyError entry.1 with
  | some e => simp only [getValues, known, bind, Except.bind]
  | none =>
    obtain ⟨values, looked, empty⟩ := getValues_isEmpty (m := source) known
    simp only [looked, bind, Except.bind, empty, List.filter_cons, List.filter_nil]
    cases source.holds entry.1 with
    | true => simp
    | false =>
      simp only [Bool.not_false, if_true, Bool.false_eq_true, if_false]
      cases valid : rules.textError entry.1 entry.2 with
      | none => exact appendText_of_valid valid
      | some e => exact appendText_of_invalid valid

/-- An extension of built metadata: the first refusal, or the source followed by the
entries whose keys it does not hold. -/
theorem extend_eq {source : Metadata} (built : rules.Built source)
    (added : List (String × String)) :
    rules.extend source added =
      match rules.refused source added with
      | some e => .error e
      | none => .ok { source with text := source.text ++ missing source added } := by
  have loop : ∀ m : Metadata, added.foldlM (rules.appendMissing source) m =
      match rules.refused source added with
      | some e => .error e
      | none => .ok { m with text := m.text ++ missing source added } := by
    induction added with
    | nil =>
      intro m
      show Except.ok m = .ok { m with text := m.text ++ [] }
      rw [List.append_nil]
    | cons entry added ih =>
      intro m
      rw [List.foldlM_cons, appendMissing_eq, refused, List.findSome?_cons]
      cases rules.entryRefused source entry with
      | some e => rfl
      | none =>
        show added.foldlM (rules.appendMissing source) _ = _
        rw [ih]
        have split : missing source (entry :: added) =
            missing source [entry] ++ missing source added := by
          unfold missing
          rw [← List.filter_append, List.singleton_append]
        rw [split, ← List.append_assoc]
        rfl
  simp only [extend, copy_view_iff.mpr ⟨built, rfl⟩, bind, Except.bind]
  exact loop source

/-- An extension is refused for an entry of it: its key, or, if the key is missing, the
entry itself is not valid. -/
theorem refusal_of_refused {source : Metadata} {added : List (String × String)} {e : String}
    (refusal : rules.refused source added = some e) : ∃ entry ∈ added,
      rules.keyError entry.1 = some e ∨
        (source.holds entry.1 = false ∧ rules.textError entry.1 entry.2 = some e) := by
  obtain ⟨entry, member, own⟩ := List.exists_of_findSome?_eq_some refusal
  refine ⟨entry, member, ?_⟩
  unfold entryRefused at own
  cases key : rules.keyError entry.1 with
  | some e' =>
    rw [key] at own
    exact .inl own
  | none =>
    rw [key] at own
    cases held : source.holds entry.1 with
    | true =>
      rw [held] at own
      cases own
    | false =>
      rw [held] at own
      exact .inr ⟨rfl, own⟩

/-- An extension is refused iff one of its entries is. -/
theorem refused_isSome_iff {source : Metadata} {added : List (String × String)} :
    (∃ e, rules.refused source added = some e) ↔ ∃ entry ∈ added,
      rules.keyError entry.1 ≠ none ∨
        (source.holds entry.1 = false ∧ rules.textError entry.1 entry.2 ≠ none) := by
  have one : ∀ entry, (∃ e, rules.entryRefused source entry = some e) ↔
      rules.keyError entry.1 ≠ none ∨
        (source.holds entry.1 = false ∧ rules.textError entry.1 entry.2 ≠ none) := by
    intro entry
    unfold entryRefused
    cases rules.keyError entry.1 with
    | some e => simp
    | none => cases source.holds entry.1 <;> simp [Option.ne_none_iff_exists']
  simp only [refused, ← one, ← Option.isSome_iff_exists, List.isSome_findSome?, List.any_eq_true]

end MetadataRules

end GrpcEgress
