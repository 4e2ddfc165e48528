import TransactionHarness.Text.CombiningClass
import TransactionHarness.Text.Composition.Table
/-!
# Composed text

A character with marks can be written in several ways: as one character, as a character and marks,
with the marks in any order that means the same. `composed` gives the form with as few characters as
possible: all characters are taken apart (`parts`), marks are put in the order of their classes
(`inOrder`), and every character takes up the marks behind it (`join`). Hangul syllables, which
consist of two or three letters, are handled in the same way; their code points are computed.

`composed_of_ascii` states that text without marks stays as it is.
-/

namespace TransactionHarness.Text.Composition

/-! ### Hangul syllables -/

/-- The first syllable. -/
def firstSyllable : Nat := 0xAC00

/-- The number of syllables. -/
def syllableCount : Nat := 11172

/-- The number of letters that a syllable can start with. -/
def leadCount : Nat := 19

/-- The first letter that a syllable can start with. -/
def firstLead : Nat := 0x1100

/-- The number of vowels. -/
def vowelCount : Nat := 21

/-- The first vowel. -/
def firstVowel : Nat := 0x1161

/-- The number of ways in which a syllable can end, one of which is its vowel. -/
def endCount : Nat := 28

/-- The code point in front of the letters that a syllable can end with. -/
def openEnd : Nat := 0x11A7

/-- Whether a code point is a syllable. -/
def isSyllable (n : Nat) : Bool := firstSyllable ≤ n && n < firstSyllable + syllableCount

/-- Whether a code point is a syllable that ends with its vowel. -/
def isOpenSyllable (n : Nat) : Bool := isSyllable n && (n - firstSyllable) % endCount == 0

/-- A syllable without its last letter, and that letter. -/
def syllableParts (n : Nat) : Nat × Nat :=
  let k := n - firstSyllable
  if k % endCount = 0 then
    (firstLead + k / (vowelCount * endCount), firstVowel + k / endCount % vowelCount)
  else (n - k % endCount, openEnd + k % endCount)

/-- The syllable that two code points form. -/
def syllable? (first second : Nat) : Option Nat :=
  if firstLead ≤ first && first < firstLead + leadCount &&
      firstVowel ≤ second && second < firstVowel + vowelCount then
    some (firstSyllable +
      ((first - firstLead) * vowelCount + (second - firstVowel)) * endCount)
  else if isOpenSyllable first && openEnd < second && second < openEnd + endCount then
    some (first + (second - openEnd))
  else none

/-! ### Taking apart -/

/-- The two code points that a code point is composed of. -/
def twoParts? (n : Nat) : Option (Nat × Nat) :=
  if n < 0xC0 then none
  else if isSyllable n then some (syllableParts n)
  else compositions.findSome? fun entry ↦
    (entry.2.find? fun bearer ↦ bearer.2 == n).map fun bearer ↦ (bearer.1, entry.1)

/-- What a code point is composed of, taken apart at most `depth` times. -/
def partsWithin : Nat → Nat → List Nat
  | 0, n => [n]
  | depth + 1, n =>
    match twoParts? n with
    | some (first, second) => partsWithin depth first ++ [second]
    | none => [n]

/-- The most marks that a single character has. -/
def mostMarks : Nat := 3

/-- What a code point is composed of. -/
def parts (n : Nat) : List Nat := partsWithin mostMarks n

/-! ### Order of marks -/

/-- A code point with its combining class. -/
abbrev Classed := Nat × Nat

/-- A code point with its combining class. -/
def classed (n : Nat) : Classed := (combiningClass n, n)

/-- Puts a mark behind the marks of lower classes. -/
def insertMark (mark : Classed) : List Classed → List Classed
  | [] => [mark]
  | next :: rest =>
    if next.1 ≠ 0 ∧ next.1 < mark.1 then next :: insertMark mark rest else mark :: next :: rest

/-- The code points with all marks in the order of their classes. -/
def inOrder : List Classed → List Classed
  | [] => []
  | c :: rest => if c.1 = 0 then c :: inOrder rest else insertMark c (inOrder rest)

/-! ### Joining -/

/-- The code point that two form. -/
def pair? (first second : Nat) : Option Nat :=
  if second < 0x300 then none
  else match syllable? first second with
    | some n => some n
    | none => (compositions.lookup second).bind (·.lookup first)

/-- Joins `bearer` with the marks behind it, up to the next character of class zero. `passed` has
the marks that were passed over and cannot be joined, the last one first. A mark can be joined if
there are none, or the last one is of a lower class. -/
def join (bearer : Nat) (passed : List Classed) : List Classed → List Nat
  | [] => bearer :: passed.reverse.map (·.2)
  | c :: rest =>
    match if passed.all (·.1 < c.1) then pair? bearer c.2 else none with
    | some joined => join joined passed rest
    | none =>
      if c.1 = 0 then bearer :: passed.reverse.map (·.2) ++ join c.2 [] rest
      else join bearer (c :: passed) rest

/-- The code points with every character joined with its marks. -/
def joined : List Classed → List Nat
  | [] => []
  | c :: rest => join c.2 [] rest

/-- The text with as few characters as possible. -/
def composed (s : List Char) : List Char :=
  (joined (inOrder ((s.flatMap fun c ↦ parts c.toNat).map classed))).map Char.ofNat

/-! ### Text without marks -/

theorem parts_of_lt {n : Nat} (h : n < 0xC0) : parts n = [n] := by
  simp [parts, mostMarks, partsWithin, twoParts?, h]

theorem inOrder_of_zero {s : List Classed} (h : ∀ c ∈ s, c.1 = 0) : inOrder s = s := by
  induction s with
  | nil => rfl
  | cons c rest ih =>
    rw [inOrder, if_pos (h c List.mem_cons_self), ih fun d hd ↦ h d (List.mem_cons_of_mem _ hd)]

theorem join_of_lt (bearer : Nat) {s : List Classed} (h : ∀ c ∈ s, c.1 = 0 ∧ c.2 < 0x300) :
    join bearer [] s = bearer :: s.map (·.2) := by
  induction s generalizing bearer with
  | nil => rfl
  | cons c rest ih =>
    obtain ⟨zero, small⟩ := h c List.mem_cons_self
    simp [join, pair?, zero, small, ih c.2 fun d hd ↦ h d (List.mem_cons_of_mem _ hd)]

theorem joined_of_lt {s : List Classed} (h : ∀ c ∈ s, c.1 = 0 ∧ c.2 < 0x300) :
    joined s = s.map (·.2) := by
  cases s with
  | nil => rfl
  | cons c rest => exact join_of_lt c.2 fun d hd ↦ h d (List.mem_cons_of_mem _ hd)

theorem flatMap_parts_of_ascii {s : List Char} (h : ∀ c ∈ s, c.toNat < 0x80) :
    s.flatMap (fun c ↦ parts c.toNat) = s.map Char.toNat := by
  induction s with
  | nil => rfl
  | cons c rest ih =>
    have small : c.toNat < 0xC0 := Nat.lt_trans (h c List.mem_cons_self) (by decide)
    rw [List.flatMap_cons, parts_of_lt small, ih fun d hd ↦ h d (List.mem_cons_of_mem _ hd)]
    rfl

/-- Text without marks stays as it is. -/
theorem composed_of_ascii {s : List Char} (h : ∀ c ∈ s, c.toNat < 0x80) : composed s = s := by
  have small : ∀ c ∈ (s.map Char.toNat).map classed, c.1 = 0 ∧ c.2 < 0x300 := by
    intro c hc
    obtain ⟨n, hn, rfl⟩ := List.mem_map.1 hc
    obtain ⟨d, hd, rfl⟩ := List.mem_map.1 hn
    have bound : d.toNat < 0x300 := Nat.lt_trans (h d hd) (by decide)
    exact ⟨combiningClass_of_lt bound, bound⟩
  rw [composed, flatMap_parts_of_ascii h, inOrder_of_zero fun c hc ↦ (small c hc).1,
    joined_of_lt small, List.map_map, List.map_map, List.map_map]
  conv => rhs; rw [← List.map_id s]
  exact List.map_congr_left fun c _ ↦ Char.ofNat_toNat c

end TransactionHarness.Text.Composition
