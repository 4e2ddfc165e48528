/-!
# White space

White space is Unicode's `White_Space` property: twenty-five characters, of which six are ASCII.
Everything here works on lists of characters, so that a statement about a text is a statement about
its characters.

* `trim`, `trimStart`, `trimEnd` remove white space at the ends.
* `lines` splits at line feeds. A carriage return directly before a line feed belongs to the line
  end, and an empty rest after the last line feed is no line.

`trimStart_blank_append` and `trimEnd_append_blank` state that white space added at an end is
removed again; `trimStart_of_head` and `trimEnd_of_last` that nothing else is.
-/

namespace TransactionHarness.Text

/-- The `White_Space` property. -/
def isBlank (c : Char) : Bool :=
  let n := c.toNat
  (9 ≤ n && n ≤ 13) || n == 0x20 || n == 0x85 || n == 0xA0 || n == 0x1680 ||
    (0x2000 ≤ n && n ≤ 0x200A) || n == 0x2028 || n == 0x2029 || n == 0x202F || n == 0x205F ||
    n == 0x3000

/-- The text without its leading white space. -/
def trimStart (s : List Char) : List Char := s.dropWhile isBlank

/-- The list without the longest end whose elements all have the property. -/
def dropLastWhile {α : Type} (p : α → Bool) (s : List α) : List α :=
  (s.reverse.dropWhile p).reverse

/-- The text without its trailing white space. -/
def trimEnd (s : List Char) : List Char := dropLastWhile isBlank s

/-- The text without white space at either end. -/
def trim (s : List Char) : List Char := trimEnd (trimStart s)

/-- The pieces between the separators, of which there is one more than there are separators. -/
def pieces {α : Type} [DecidableEq α] (separator : α) : List α → List (List α)
  | [] => [[]]
  | c :: rest =>
    if c = separator then [] :: pieces separator rest
    else match pieces separator rest with
      | [] => [[c]]
      | piece :: more => (c :: piece) :: more

/-- The text without one carriage return at its end. -/
def dropCarriageReturn (s : List Char) : List Char :=
  if s.getLast? = some '\r' then s.dropLast else s

/-- The lines of a text, in order. A line ends at a line feed, with which one carriage return in
front of it is dropped. The rest after the last line feed is a line of its own, kept as it is,
unless it is empty. -/
def lines (s : List Char) : List (List Char) :=
  let all := pieces '\n' s
  let closed := all.dropLast.map dropCarriageReturn
  match all.getLast? with
  | some [] => closed
  | some rest => closed ++ [rest]
  | none => closed

/-! ### Pieces -/

theorem pieces_ne_nil {α : Type} [DecidableEq α] (separator : α) (s : List α) :
    pieces separator s ≠ [] := by
  induction s with
  | nil => simp [pieces]
  | cons c s ih =>
    unfold pieces
    split
    · simp
    · split <;> simp

theorem pieces_of_not_mem {α : Type} [DecidableEq α] {separator : α} {s : List α}
    (h : separator ∉ s) : pieces separator s = [s] := by
  induction s with
  | nil => rfl
  | cons c s ih =>
    rw [List.mem_cons, not_or] at h
    rw [pieces, if_neg (Ne.symm h.1), ih h.2]

/-- A separator has the pieces in front of it and the pieces behind it. -/
theorem pieces_append_cons {α : Type} [DecidableEq α] (separator : α) (s t : List α) :
    pieces separator (s ++ separator :: t) = pieces separator s ++ pieces separator t := by
  induction s with
  | nil => simp [pieces]
  | cons c s ih =>
    by_cases hc : c = separator
    · simp [pieces, hc, ih]
    · simp only [List.cons_append, pieces, hc, if_false, ih]
      cases h : pieces separator s with
      | nil => exact absurd h (pieces_ne_nil separator s)
      | cons piece more => simp

/-- A separator at the end adds an empty piece. -/
theorem pieces_append_separator {α : Type} [DecidableEq α] (separator : α) (s : List α) :
    pieces separator (s ++ [separator]) = pieces separator s ++ [[]] :=
  pieces_append_cons separator s []

/-! ### White space at the ends -/

theorem trimStart_blank_append {w : List Char} (h : ∀ c ∈ w, isBlank c = true) (s : List Char) :
    trimStart (w ++ s) = trimStart s := by
  induction w with
  | nil => rfl
  | cons c w ih =>
    have hc : isBlank c = true := h c List.mem_cons_self
    simpa [trimStart, hc] using ih fun d hd ↦ h d (List.mem_cons_of_mem _ hd)

theorem trimEnd_append_blank {w : List Char} (h : ∀ c ∈ w, isBlank c = true) (s : List Char) :
    trimEnd (s ++ w) = trimEnd s := by
  have h' : ∀ c ∈ w.reverse, isBlank c = true := fun c hc ↦ h c (List.mem_reverse.1 hc)
  simpa [trimEnd, dropLastWhile, trimStart] using trimStart_blank_append h' s.reverse

theorem trimStart_of_head {c : Char} (h : isBlank c = false) (s : List Char) :
    trimStart (c :: s) = c :: s := by
  simp [trimStart, h]

theorem trimEnd_of_last {c : Char} (h : isBlank c = false) (s : List Char) :
    trimEnd (s ++ [c]) = s ++ [c] := by
  simp [trimEnd, dropLastWhile, h]

end TransactionHarness.Text
