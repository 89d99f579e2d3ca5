/-!
# Searching and reading plain text

The few text operations that hand-written readers of peer-controlled strings are
made of, over lists of characters: substring search, the text after the first
occurrence of a tag, the text before the first occurrence of a character, ASCII
lower case, trimming, and reading an unsigned 64-bit number the way a standard
library does (an optional plus sign, then decimal digits, no overflow).

Text that is cut at a byte of its UTF-8 form can be cut between two characters only.
`takeBytes` is such a cut; `takeBytes_eq_some` says when it can be made, and
`asciiLower_take` that text which starts with ASCII letters can be cut behind them.
-/

namespace Text

/-- `hay` contains `needle`. -/
def contains (needle : List Char) : List Char → Bool
  | [] => needle.isEmpty
  | c :: cs => needle.isPrefixOf (c :: cs) || contains needle cs

/-- The text after the first occurrence of `tag`. -/
def afterFirst (tag : List Char) : List Char → Option (List Char)
  | [] => if tag.isEmpty then some [] else none
  | c :: cs =>
    if tag.isPrefixOf (c :: cs) then some ((c :: cs).drop tag.length) else afterFirst tag cs

/-- The text before the first `stop`. -/
def beforeFirst (stop : Char) : List Char → Option (List Char)
  | [] => none
  | c :: cs => if c = stop then some [] else (beforeFirst stop cs).map (c :: ·)

/-- ASCII letters in lower case; every other character is left as it is. -/
def asciiLower (cs : List Char) : List Char :=
  cs.map Char.toLower

/-- The Unicode white space that trimming removes. -/
def isWhiteSpace (c : Char) : Bool :=
  let n := c.toNat
  (9 ≤ n && n ≤ 13) || n == 0x20 || n == 0x85 || n == 0xA0 || n == 0x1680 ||
    (0x2000 ≤ n && n ≤ 0x200A) || n == 0x2028 || n == 0x2029 || n == 0x202F || n == 0x205F ||
    n == 0x3000

/-- The text without white space at either end. -/
def trim (cs : List Char) : List Char :=
  (((cs.dropWhile isWhiteSpace).reverse).dropWhile isWhiteSpace).reverse

/-- Decimal digits read onto `acc`; nothing when a character is not a digit or the
number reaches `2 ^ 64`. -/
def readDigits : List Char → Nat → Option Nat
  | [], acc => some acc
  | c :: cs, acc =>
    if c.isDigit then
      let next := acc * 10 + (c.toNat - '0'.toNat)
      if next < UInt64.size then readDigits cs next else none
    else none

/-- An unsigned 64-bit number: an optional plus sign and at least one digit. -/
def parseU64 (cs : List Char) : Option UInt64 :=
  let digits := match cs with
    | '+' :: rest => rest
    | _ => cs
  if digits.isEmpty then none else (readDigits digits 0).map UInt64.ofNat

/-! ## Bytes -/

/-- The number of bytes of the UTF-8 form. -/
def byteLength : List Char → Nat
  | [] => 0
  | c :: cs => c.utf8Size + byteLength cs

/-- The text of the first `n` bytes; nothing when it has fewer bytes, or when `n` is inside
a character. -/
def takeBytes : Nat → List Char → Option (List Char)
  | 0, _ => some []
  | _ + 1, [] => none
  | n + 1, c :: cs =>
    if c.utf8Size ≤ n + 1 then (takeBytes (n + 1 - c.utf8Size) cs).map (c :: ·) else none

theorem length_le_byteLength (cs : List Char) : cs.length ≤ byteLength cs := by
  induction cs with
  | nil => exact Nat.le_refl 0
  | cons c cs ih =>
    rw [List.length_cons, Nat.add_comm]
    exact Nat.add_le_add c.utf8Size_pos ih

theorem byteLength_append (cs ds : List Char) :
    byteLength (cs ++ ds) = byteLength cs + byteLength ds := by
  induction cs with
  | nil => exact (Nat.zero_add _).symm
  | cons c cs ih =>
    show c.utf8Size + byteLength (cs ++ ds) = c.utf8Size + byteLength cs + byteLength ds
    rw [ih, Nat.add_assoc]

theorem takeBytes_zero {cs front : List Char} : takeBytes 0 cs = some front ↔ front = [] := by
  simp only [takeBytes, Option.some.injEq, eq_comm]

/-- A cut behind a first character cuts the rest. -/
theorem takeBytes_cons {n : Nat} {c : Char} {cs front : List Char} :
    takeBytes (n + 1) (c :: cs) = some front ↔ c.utf8Size ≤ n + 1 ∧
      ∃ rest, takeBytes (n + 1 - c.utf8Size) cs = some rest ∧ front = c :: rest := by
  rw [takeBytes]
  split
  · next fits =>
    rw [Option.map_eq_some_iff, and_iff_right fits]
    refine exists_congr fun rest => and_congr Iff.rfl ?_
    exact eq_comm
  · next overlaps =>
    simp only [reduceCtorEq, overlaps, false_and]

theorem eq_nil_of_byteLength {cs : List Char} (empty : byteLength cs = 0) : cs = [] :=
  List.length_eq_zero_iff.mp (Nat.le_zero.mp (empty ▸ length_le_byteLength cs))

/-- A cut is made behind the characters that have that many bytes. -/
theorem takeBytes_eq_some {n : Nat} {cs front : List Char} :
    takeBytes n cs = some front ↔ front <+: cs ∧ byteLength front = n := by
  induction cs generalizing n front with
  | nil =>
    rw [List.prefix_nil]
    cases n with
    | zero =>
      rw [takeBytes_zero]
      constructor
      · rintro rfl
        exact ⟨rfl, rfl⟩
      · exact And.left
    | succ n =>
      simp only [takeBytes, reduceCtorEq, false_iff]
      rintro ⟨rfl, none⟩
      cases none
  | cons c cs ih =>
    cases n with
    | zero =>
      rw [takeBytes_zero]
      constructor
      · rintro rfl
        exact ⟨List.nil_prefix, rfl⟩
      · rintro ⟨-, empty⟩
        exact eq_nil_of_byteLength empty
    | succ n =>
      rw [takeBytes_cons]
      constructor
      · rintro ⟨fits, rest, taken, rfl⟩
        obtain ⟨starts, bytes⟩ := ih.mp taken
        refine ⟨List.cons_prefix_cons.mpr ⟨rfl, starts⟩, ?_⟩
        show c.utf8Size + byteLength rest = n + 1
        rw [bytes, Nat.add_sub_cancel' fits]
      · rintro ⟨starts, bytes⟩
        cases front with
        | nil => cases bytes
        | cons d rest =>
          obtain ⟨rfl, further⟩ := List.cons_prefix_cons.mp starts
          have whole : d.utf8Size + byteLength rest = n + 1 := bytes
          refine ⟨whole ▸ Nat.le_add_right _ _, rest, ih.mpr ⟨further, ?_⟩, rfl⟩
          rw [← whole, Nat.add_sub_cancel_left]

/-- A character whose lower case is ASCII is one byte. -/
theorem utf8Size_of_toLower {c : Char} (ascii : c.toLower.utf8Size = 1) : c.utf8Size = 1 := by
  unfold Char.toLower at ascii
  split at ascii
  · next upper =>
    have small : c.val ≤ 0x7f := UInt32.le_trans upper.2 (by decide)
    unfold Char.utf8Size
    exact if_pos small
  · exact ascii

theorem byteLength_of_ascii {cs : List Char} (ascii : ∀ c ∈ cs, c.utf8Size = 1) :
    byteLength cs = cs.length := by
  induction cs with
  | nil => rfl
  | cons c cs ih =>
    obtain ⟨first, rest⟩ := List.forall_mem_cons.mp ascii
    show c.utf8Size + byteLength cs = cs.length + 1
    rw [first, ih rest, Nat.add_comm]

theorem byteLength_of_asciiLower {cs : List Char}
    (ascii : ∀ c ∈ asciiLower cs, c.utf8Size = 1) : byteLength cs = cs.length :=
  byteLength_of_ascii fun _ member =>
    utf8Size_of_toLower (ascii _ (List.mem_map_of_mem member))

/-- Text that starts with these ASCII characters, in any letter case, can be cut behind
them, and what is cut off is them. -/
theorem asciiLower_take {word cs : List Char} (ascii : ∀ c ∈ word, c.utf8Size = 1) :
    asciiLower (cs.take word.length) = word ↔
      ∃ front, takeBytes word.length cs = some front ∧ asciiLower front = word := by
  have counted : ∀ {front : List Char}, asciiLower front = word →
      byteLength front = word.length ∧ front.length = word.length := by
    rintro front rfl
    have same : (asciiLower front).length = front.length := List.length_map _
    exact ⟨(byteLength_of_asciiLower ascii).trans same.symm, same.symm⟩
  constructor
  · intro starts
    exact ⟨_, takeBytes_eq_some.mpr ⟨List.take_prefix _ cs, (counted starts).1⟩, starts⟩
  · rintro ⟨front, taken, starts⟩
    obtain ⟨⟨rest, rfl⟩, -⟩ := takeBytes_eq_some.mp taken
    rw [← (counted starts).2, List.take_left]
    exact starts

end Text
