import GrpcEgress.Lib.TextSearch
import GrpcEgress.Retry.Classifier

/-!
# The hint of a message

The interface documents a hint `[retry-after=Ns]` at the end of the message. The reader
takes the first `[retry-after=`, cuts at the next `s` and parses what is between. The
closing `]` is never looked at, and a plus sign and leading zeros are read as well:
`[retry-after=5sec]` makes a caller wait for five seconds that nobody asked for. And a
message that quotes the tag hides the hint at its end.

Results:
1. `parseRetryAfterHint_eq_some`: what is read, `IsRead`, as a relation to the text;
2. `isRead_append_hint`: the hint at the end of a message is read exactly when the message
   has no other tag, or one that is read as the same number;
3. `isHinted_iff`: where the complete hint is in a message that is read;
4. `readRetryAfter_asked_iff`: which failures make a caller wait for a time that is stated
   nowhere.
`hint_read_iff` has all of it.
-/

namespace GrpcEgress

open StdRetryClassifier Text

/-- The tag a hint starts with. -/
def hintTag : List Char := "[retry-after=".toList

/-- `[retry-after=Ns]`. -/
def retryAfterHint (n : UInt64) : String := "[retry-after=" ++ n.toNat.repr ++ "s]"

/-- The message contains the complete hint. -/
def IsHinted (message : String) (n : UInt64) : Prop :=
  (retryAfterHint n).toList <:+: message.toList

instance (message : String) (n : UInt64) : Decidable (IsHinted message n) :=
  decidable_of_iff _ contains_iff

/-- Behind the first tag, up to an `s`, is a numeral of `n` with a plus sign or without. -/
structure FirstTag (message : String) (n : UInt64) (sign digits after : List Char) : Prop where
  whole : ∃ before, message.toList = before ++ hintTag ++ (sign ++ digits ++ 's' :: after) ∧
    ¬ hintTag <:+: before
  signed : sign = [] ∨ sign = ['+']
  numeral : IsNumeral digits n.toNat

/-- The reader's idea of a hint. -/
def IsRead (message : String) (n : UInt64) : Prop :=
  ∃ sign digits after, FirstTag message n sign digits after

/-- The first tag is read although it is signed, has leading zeros or is not closed, and
the number is not hinted behind it. -/
def IsMisread (message : String) : Prop :=
  ∃ n sign digits after, FirstTag message n sign digits after ∧
    (sign ≠ [] ∨ digits ≠ Nat.toDigits 10 n.toNat ∨ ¬ [']'] <+: after) ∧
    ¬ (retryAfterHint n).toList <:+: after

/-- The first value of one of the two trailers is a number of seconds. -/
def IsInTrailers (trailers : Metadata) (n : UInt64) : Prop :=
  ∃ key ∈ retryAfterKeys, ∃ value,
    (valuesOf trailers key).head? = some value ∧ parseU64 (trim value.toList) = some n

/-- The peer has asked for `n` seconds, in a trailer or in a hint. -/
def CallError.Asks : CallError → UInt64 → Prop
  | .status _ _ message trailers, n => IsInTrailers trailers n ∨ IsHinted message n
  | _, _ => False

/-- A status with no number in its trailers and a message that is misread. -/
def CallError.IsMisread : CallError → Prop
  | .status _ _ message trailers => (∀ n, ¬ IsInTrailers trailers n) ∧ GrpcEgress.IsMisread message
  | _ => False

/-! ## Tags, signs and digits -/

theorem retryAfterHint_toList (n : UInt64) :
    (retryAfterHint n).toList = hintTag ++ (Nat.toDigits 10 n.toNat ++ ['s', ']']) := by
  rw [retryAfterHint, String.toList_append, String.toList_append, Nat.toList_repr,
    List.append_assoc]
  rfl

theorem hintTag_fresh : '[' ∉ "retry-after=".toList := by decide

/-- The first tag is found wherever it is. -/
theorem afterFirst_hintTag {before : List Char} (first : ¬ hintTag <:+: before)
    (rest : List Char) : afterFirst hintTag (before ++ hintTag ++ rest) = some rest :=
  afterFirst_complete hintTag_fresh first rest

/-- Neither a sign nor a digit is another character. -/
theorem not_mem_signed {sign digits : List Char} {n : Nat} {c : Char}
    (signed : sign = [] ∨ sign = ['+']) (numeral : IsNumeral digits n) (other : c ≠ '+')
    (letter : c.isDigit = false) : c ∉ sign ++ digits := by
  intro member
  rcases List.mem_append.mp member with inSign | inDigits
  · rcases signed with rfl | rfl
    · exact List.not_mem_nil inSign
    · exact other (List.mem_singleton.mp inSign)
  · rw [numeral.2.1 c inDigits] at letter
    cases letter

/-- A tag behind a text that is read up to an `s` is behind the `s`. -/
theorem FirstTag.split {message : String} {n : UInt64} {sign digits after front tail : List Char}
    (tag : FirstTag message n sign digits after)
    (whole : front ++ (hintTag ++ tail) = sign ++ digits ++ 's' :: after) :
    ∃ between, front = sign ++ digits ++ 's' :: between ∧ after = between ++ (hintTag ++ tail) := by
  rcases List.append_eq_append_iff.mp whole with ⟨beyond, number, behind⟩ | ⟨beyond, rfl, behind⟩
  · exfalso
    cases beyond with
    | nil => exact absurd (List.cons_eq_cons.mp behind).1 (by decide)
    | cons c cs =>
      obtain ⟨rfl, -⟩ := List.cons_eq_cons.mp behind
      refine not_mem_signed (c := '[') tag.signed tag.numeral (by decide) (by decide) ?_
      rw [number]
      exact List.mem_append_right front List.mem_cons_self
  · cases beyond with
    | nil => exact absurd (List.cons_eq_cons.mp behind).1 (by decide)
    | cons c cs =>
      obtain ⟨rfl, rfl⟩ := List.cons_eq_cons.mp behind
      exact ⟨cs, rfl, rfl⟩

/-- A text without a tag in front of one: that one is the first. -/
theorem FirstTag.of_untagged {message : String} {n : UInt64}
    {sign digits after front tail : List Char} (tag : FirstTag message n sign digits after)
    (whole : message.toList = front ++ hintTag ++ tail) (untagged : ¬ hintTag <:+: front) :
    sign ++ digits ++ 's' :: after = tail := by
  obtain ⟨before, message, first⟩ := tag.whole
  have found := afterFirst_hintTag first (sign ++ digits ++ 's' :: after)
  rw [← message, whole, afterFirst_hintTag untagged] at found
  exact (Option.some.inj found).symm

/-- A text with a tag in front of another: what is read is in that text. -/
theorem FirstTag.of_tagged {message : String} {n : UInt64}
    {sign digits after front tail : List Char} (tag : FirstTag message n sign digits after)
    (whole : message.toList = front ++ hintTag ++ tail) (tagged : hintTag <:+: front) :
    ∃ between, after = between ++ hintTag ++ tail ∧
      ∃ before, front = before ++ hintTag ++ (sign ++ digits ++ 's' :: between) ∧
        ¬ hintTag <:+: before := by
  cases found : afterFirst hintTag front with
  | none => exact absurd tagged (afterFirst_eq_none.mp found)
  | some rest =>
    obtain ⟨before, rfl, first⟩ := afterFirst_sound found
    rw [List.append_assoc, List.append_assoc] at whole
    have same := tag.of_untagged whole (first (by decide))
    obtain ⟨between, rfl, behind⟩ := tag.split same.symm
    rw [← List.append_assoc] at behind
    exact ⟨between, behind, before, rfl, first (by decide)⟩

/-- A number that is read where it is printed is read as it is printed. -/
theorem FirstTag.of_printed {message : String} {n : UInt64} {sign digits after rest : List Char}
    (tag : FirstTag message n sign digits after)
    (whole : sign ++ digits ++ 's' :: after = Nat.toDigits 10 n.toNat ++ 's' :: ']' :: rest) :
    sign = [] ∧ digits = Nat.toDigits 10 n.toNat ∧ [']'] <+: after := by
  have printed := isNumeral_toDigits n.toNat
  have read := not_mem_signed (c := 's') tag.signed tag.numeral (by decide) (by decide)
  have unsigned := not_mem_signed (c := 's') (.inl rfl) printed (by decide) (by decide)
  have cut := beforeFirst_eq_some.mpr ⟨read, after, rfl⟩
  rw [whole] at cut
  have same := cut.symm.trans (beforeFirst_eq_some.mpr ⟨unsigned, ']' :: rest, rfl⟩)
  have number : sign ++ digits = Nat.toDigits 10 n.toNat := Option.some.inj same
  rw [number, List.append_cancel_left_eq] at whole
  obtain ⟨-, rfl⟩ := List.cons_eq_cons.mp whole
  rcases tag.signed with rfl | rfl
  · exact ⟨rfl, number, rest, rfl⟩
  · have plus := printed.2.1 '+' (number ▸ List.mem_cons_self)
    exact absurd plus (by decide)

/-! ## What is read -/

theorem parseRetryAfterHint_eq_some {message : String} {d : Duration} :
    parseRetryAfterHint message = some d ↔ ∃ n, IsRead message n ∧ d = Duration.fromSecs n := by
  show ((afterFirst hintTag message.toList).bind fun rest =>
    (beforeFirst 's' rest).bind fun digits =>
      (parseU64 digits).bind fun secs => some (Duration.fromSecs secs)) = some d ↔ _
  simp only [Option.bind_eq_some_iff, Option.some.injEq]
  constructor
  · rintro ⟨rest, found, number, cut, n, read, rfl⟩
    obtain ⟨before, whole, first⟩ := afterFirst_sound found
    obtain ⟨-, after, rfl⟩ := beforeFirst_eq_some.mp cut
    obtain ⟨digits, spelled, numeral⟩ := parseU64_eq_some.mp read
    refine ⟨n, ?_, rfl⟩
    rcases spelled with rfl | rfl
    · exact ⟨[], number, after, ⟨before, whole, first (by decide)⟩, .inl rfl, numeral⟩
    · exact ⟨['+'], digits, after, ⟨before, whole, first (by decide)⟩, .inr rfl, numeral⟩
  · rintro ⟨n, ⟨sign, digits, after, tag⟩, rfl⟩
    obtain ⟨before, whole, first⟩ := tag.whole
    refine ⟨sign ++ digits ++ 's' :: after, ?_, sign ++ digits, ?_, n, ?_, rfl⟩
    · rw [whole]
      exact afterFirst_hintTag first _
    · have unmet := not_mem_signed (c := 's') tag.signed tag.numeral (by decide) (by decide)
      exact beforeFirst_eq_some.mpr ⟨unmet, after, rfl⟩
    · refine parseU64_eq_some.mpr ⟨digits, ?_, tag.numeral⟩
      rcases tag.signed with rfl | rfl
      · exact .inl rfl
      · exact .inr rfl

theorem fromSecs_inj {n k : UInt64} (same : Duration.fromSecs n = Duration.fromSecs k) :
    n = k := by
  have nanos : n.toNat * 1000000000 = k.toNat * 1000000000 := congrArg Duration.nanos same
  exact UInt64.toNat_inj.mp (Nat.eq_of_mul_eq_mul_right (by decide) nanos)

theorem parseRetryAfterHint_eq_fromSecs {message : String} {n : UInt64} :
    parseRetryAfterHint message = some (Duration.fromSecs n) ↔ IsRead message n := by
  rw [parseRetryAfterHint_eq_some]
  constructor
  · rintro ⟨k, read, same⟩
    exact fromSecs_inj same ▸ read
  · exact fun read => ⟨n, read, rfl⟩

/-! ## The hint at the end -/

theorem isRead_append_hint {m : String} {n : UInt64} :
    IsRead (m ++ retryAfterHint n) n ↔ ¬ hintTag <:+: m.toList ∨ IsRead m n := by
  have whole : (m ++ retryAfterHint n).toList =
      m.toList ++ (hintTag ++ (Nat.toDigits 10 n.toNat ++ ['s', ']'])) := by
    rw [String.toList_append, retryAfterHint_toList]
  constructor
  · rintro ⟨sign, digits, after, tag⟩
    refine or_iff_not_imp_left.mpr fun tagged => ?_
    obtain ⟨between, -, first⟩ :=
      tag.of_tagged (whole.trans (List.append_assoc _ _ _).symm) (Classical.not_not.mp tagged)
    exact ⟨sign, digits, between, first, tag.signed, tag.numeral⟩
  · rintro (untagged | ⟨sign, digits, after, tag⟩)
    · refine ⟨[], Nat.toDigits 10 n.toNat, [']'], ⟨m.toList, ?_, untagged⟩, .inl rfl,
        isNumeral_toDigits n.toNat⟩
      simp only [whole, List.append_assoc, List.nil_append]
    · obtain ⟨before, message, first⟩ := tag.whole
      refine ⟨sign, digits, after ++ (retryAfterHint n).toList, ⟨before, ?_, first⟩, tag.signed,
        tag.numeral⟩
      rw [String.toList_append, message]
      simp only [List.append_assoc, List.cons_append]

/-! ## The complete hint -/

/-- A message that is read has the complete hint where it is read, or behind that. -/
theorem isHinted_iff {message : String} {n : UInt64} {sign digits after : List Char}
    (tag : FirstTag message n sign digits after) :
    IsHinted message n ↔
      (sign = [] ∧ digits = Nat.toDigits 10 n.toNat ∧ [']'] <+: after) ∨
        (retryAfterHint n).toList <:+: after := by
  constructor
  · rintro ⟨front, behind, whole⟩
    rw [retryAfterHint_toList, ← List.append_assoc, List.append_assoc] at whole
    by_cases tagged : hintTag <:+: front
    · obtain ⟨between, rfl, -⟩ := tag.of_tagged whole.symm tagged
      refine .inr ⟨between, behind, ?_⟩
      rw [retryAfterHint_toList]
      simp only [List.append_assoc]
    · have same := tag.of_untagged whole.symm tagged
      exact .inl (tag.of_printed (same.trans (List.append_assoc _ _ behind)))
  · rintro (⟨rfl, rfl, rest, rfl⟩ | within)
    · obtain ⟨before, whole, -⟩ := tag.whole
      refine ⟨before, rest, ?_⟩
      rw [whole, retryAfterHint_toList]
      simp only [List.append_assoc, List.nil_append, List.cons_append]
    · obtain ⟨before, whole, -⟩ := tag.whole
      refine within.trans ⟨before ++ hintTag ++ (sign ++ digits ++ ['s']), [], ?_⟩
      rw [whole]
      simp only [List.append_assoc, List.nil_append, List.append_nil, List.cons_append]

/-- A number that is read is misread when the message does not hint it. -/
theorem isMisread_iff {message : String} :
    IsMisread message ↔ ∃ n, IsRead message n ∧ ¬ IsHinted message n := by
  have loose : ∀ {n sign digits after}, FirstTag message n sign digits after →
      (¬ IsHinted message n ↔
        (sign ≠ [] ∨ digits ≠ Nat.toDigits 10 n.toNat ∨ ¬ [']'] <+: after) ∧
          ¬ (retryAfterHint n).toList <:+: after) := by
    intro n sign digits after tag
    rw [isHinted_iff tag, not_or, not_and_or, not_and_or]
  constructor
  · rintro ⟨n, sign, digits, after, tag, misspelled⟩
    exact ⟨n, ⟨sign, digits, after, tag⟩, (loose tag).mpr misspelled⟩
  · rintro ⟨n, ⟨sign, digits, after, tag⟩, unhinted⟩
    exact ⟨n, sign, digits, after, tag, (loose tag).mp unhinted⟩

theorem parse_hinted_iff {message : String} :
    (∀ d, parseRetryAfterHint message = some d →
      ∃ n, d = Duration.fromSecs n ∧ IsHinted message n) ↔ ¬ IsMisread message := by
  rw [isMisread_iff]
  constructor
  · rintro hinted ⟨n, read, unhinted⟩
    obtain ⟨k, same, hint⟩ := hinted _ (parseRetryAfterHint_eq_fromSecs.mpr read)
    exact unhinted (fromSecs_inj same ▸ hint)
  · intro clear d parsed
    obtain ⟨n, read, rfl⟩ := parseRetryAfterHint_eq_some.mp parsed
    exact ⟨n, rfl, Classical.not_not.mp fun unhinted => clear ⟨n, read, unhinted⟩⟩

/-! ## The trailers first -/

/-- The number in a trailer. -/
def trailerNumber (trailers : Metadata) (key : String) : Option UInt64 :=
  (valuesOf trailers key).head?.bind fun value => parseU64 (trim value.toList)

theorem isInTrailers_iff {trailers : Metadata} {n : UInt64} :
    IsInTrailers trailers n ↔ ∃ key ∈ retryAfterKeys, trailerNumber trailers key = some n := by
  simp only [IsInTrailers, trailerNumber, Option.bind_eq_some_iff]

/-- The message is read when there is no number in the trailers. -/
theorem readRetryAfter_status (path message : String) (code : StatusCode) (trailers : Metadata) :
    readRetryAfter (.status path code message trailers) =
      (retryAfterKeys.findSome? (trailerNumber trailers)).elim (parseRetryAfterHint message)
        fun secs => some (Duration.fromSecs secs) := by
  cases found : retryAfterKeys.findSome? (trailerNumber trailers) with
  | none =>
    unfold trailerNumber at found
    simp only [readRetryAfter, found, Option.elim]
  | some secs =>
    unfold trailerNumber at found
    simp only [readRetryAfter, found, Option.elim]

/-- A caller never waits for a time it was not asked to, unless the message is misread. -/
theorem readRetryAfter_asked_iff (e : CallError) :
    (∀ d, readRetryAfter e = some d → ∃ n, d = Duration.fromSecs n ∧ e.Asks n) ↔
      ¬ e.IsMisread := by
  cases e with
  | status path code message trailers =>
    have read := readRetryAfter_status path message code trailers
    cases found : retryAfterKeys.findSome? (trailerNumber trailers) with
    | some k =>
      rw [found] at read
      have stated := isInTrailers_iff.mpr (List.exists_of_findSome?_eq_some found)
      constructor
      · exact fun _ misread => misread.1 k stated
      · intro _ d answer
        rw [read] at answer
        exact ⟨k, (Option.some.inj answer).symm, .inl stated⟩
    | none =>
      rw [found] at read
      have unstated : ∀ n, ¬ IsInTrailers trailers n := by
        intro n stated
        obtain ⟨key, known, number⟩ := isInTrailers_iff.mp stated
        rw [List.findSome?_eq_none_iff.mp found key known] at number
        cases number
      have asks : ∀ n, CallError.Asks (.status path code message trailers) n ↔
          IsHinted message n := fun n => or_iff_right (unstated n)
      have misread : CallError.IsMisread (.status path code message trailers) ↔
          IsMisread message := and_iff_right unstated
      simp only [read, asks, misread]
      exact parse_hinted_iff
  | transport path code reason => exact ⟨fun _ => id, fun _ _ => nofun⟩
  | encode reason => exact ⟨fun _ => id, fun _ _ => nofun⟩
  | decode reason => exact ⟨fun _ => id, fun _ _ => nofun⟩

/-- When the hint is read as it is documented. At the end of a message it is read unless an
earlier tag is read in its place or hides it; no message makes up a hint unless its first
tag is misread; and a caller waits for a time it was not asked to only when the trailers
have no number and the message is misread. -/
theorem hint_read_iff (m message : String) (n : UInt64) (e : CallError) :
    (parseRetryAfterHint (m ++ retryAfterHint n) = some (Duration.fromSecs n) ↔
      ¬ hintTag <:+: m.toList ∨ IsRead m n) ∧
    ((∀ d, parseRetryAfterHint message = some d →
      ∃ k, d = Duration.fromSecs k ∧ IsHinted message k) ↔ ¬ IsMisread message) ∧
    ((∀ d, readRetryAfter e = some d → ∃ k, d = Duration.fromSecs k ∧ e.Asks k) ↔
      ¬ e.IsMisread) := by
  refine ⟨?_, parse_hinted_iff, readRetryAfter_asked_iff e⟩
  rw [parseRetryAfterHint_eq_fromSecs]
  exact isRead_append_hint

/-- A quoted tag hides the hint at the end; a tag that is not closed, or signed, is a hint. -/
theorem hint_misread :
    ¬ (∀ (m : String) (n : UInt64),
      parseRetryAfterHint (m ++ retryAfterHint n) = some (Duration.fromSecs n)) ∧
    ¬ (∀ (message : String) (n : UInt64),
      parseRetryAfterHint message = some (Duration.fromSecs n) → IsHinted message n) ∧
    parseRetryAfterHint ("no [retry-after=soon], sorry " ++ retryAfterHint 5) = none ∧
    parseRetryAfterHint "[retry-after=5sec]" = some (Duration.fromSecs 5) ∧
    parseRetryAfterHint "[retry-after=+5s]" = some (Duration.fromSecs 5) ∧
    ¬ IsHinted "[retry-after=5sec]" 5 ∧ ¬ IsHinted "[retry-after=+5s]" 5 := by
  have hidden :
      parseRetryAfterHint ("no [retry-after=soon], sorry " ++ retryAfterHint 5) = none := by decide
  have unclosed : parseRetryAfterHint "[retry-after=5sec]" = some (Duration.fromSecs 5) := by decide
  have signed : parseRetryAfterHint "[retry-after=+5s]" = some (Duration.fromSecs 5) := by decide
  have unhinted : ¬ IsHinted "[retry-after=5sec]" 5 := by decide
  refine ⟨fun complete => ?_, fun sound => ?_, hidden, unclosed, signed, unhinted, by decide⟩
  · exact absurd ((complete _ 5).symm.trans hidden) (Option.some_ne_none _)
  · exact unhinted (sound _ _ unclosed)

end GrpcEgress
