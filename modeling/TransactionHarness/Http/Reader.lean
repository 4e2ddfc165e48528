import TransactionHarness.Http.Head
import TransactionHarness.Text.Numeral
/-!
# Reading heads

`Head.read?` reads the head of a response from the bytes that a server has sent and gives what
follows it. A line ends at a line feed, with which one carriage return in front of it is dropped,
and a blank line ends the head. Blank lines in front of the head do not count.

`Head.readFinal?` reads on until the head is not that of an interim response. Which heads are
refused and which responses are interim is the documented behaviour of the HTTP client `reqwest`.

Main statement: `length_of_read?` — a head is never empty.
-/

namespace TransactionHarness.Http

/-- The byte of a character below 128. -/
def byte (c : Char) : UInt8 := UInt8.ofNat c.toNat

/-- The bytes of a text. -/
def bytes (s : String) : List UInt8 := Text.Utf8.encode s.toList

/-- The byte at the end of each line. -/
def lineFeed : UInt8 := byte '\n'

/-- The byte that may stand in front of it. -/
def carriageReturn : UInt8 := byte '\r'

/-- White space within a line. -/
def isPadding (b : UInt8) : Bool := b = byte ' ' || b = byte '\t'

/-- Whether a byte may stand in a line: all do that are no controls. -/
def isPlain (b : UInt8) : Bool := (0x20 ≤ b && b ≠ 0x7F) || b = byte '\t'

/-- The characters other than letters and digits of which names are made. -/
def nameMarks : List UInt8 := bytes "!#$%&'*+-.^_\x60|~"

/-- Whether a byte is a digit. -/
def isDigit (b : UInt8) : Bool := byte '0' ≤ b && b ≤ byte '9'

/-- Whether a byte may stand in the name of a field. -/
def isNameByte (b : UInt8) : Bool :=
  isDigit b || (byte 'a' ≤ b && b ≤ byte 'z') || (byte 'A' ≤ b && b ≤ byte 'Z') ||
    nameMarks.contains b

/-- A letter as a small one. -/
def toSmall (b : UInt8) : UInt8 := if byte 'A' ≤ b && b ≤ byte 'Z' then b + 0x20 else b

/-- Bytes without the white space around them. -/
def strip (bs : List UInt8) : List UInt8 :=
  ((bs.dropWhile isPadding).reverse.dropWhile isPadding).reverse

/-! ### Lines -/

/-- The bytes of a line that ended, from its bytes in reverse. -/
def closeLine : List UInt8 → List UInt8
  | b :: rest => if b = carriageReturn then rest.reverse else (b :: rest).reverse
  | [] => []

/-- The lines up to the first blank one, and what follows it. The bytes of the line that has begun
are given in reverse. -/
def linesFrom? (current : List UInt8) : List UInt8 → Option (List (List UInt8) × List UInt8)
  | [] => none
  | b :: rest =>
    if b = lineFeed then
      match closeLine current with
      | [] => some ([], rest)
      | line => (linesFrom? [] rest).map fun (lines, after) ↦ (line :: lines, after)
    else linesFrom? (b :: current) rest

/-- Bytes without the blank lines in front. -/
def dropBlankLines : List UInt8 → List UInt8
  | [] => []
  | [b] => if b = lineFeed then [] else [b]
  | b :: c :: rest =>
    if b = lineFeed then dropBlankLines (c :: rest)
    else if b = carriageReturn ∧ c = lineFeed then dropBlankLines rest
    else b :: c :: rest

/-! ### Status lines and fields -/

/-- The versions that are read. -/
def Version.read? (bs : List UInt8) : Option Version :=
  if bs = bytes "HTTP/1.1" then some .v11 else if bs = bytes "HTTP/1.0" then some .v10 else none

/-- Reads a status code: three digits, the first of them not zero. -/
def readStatus? : List UInt8 → Option Nat
  | [a, b, c] =>
    if isDigit a && isDigit b && isDigit c && a ≠ byte '0' then
      some ((a.toNat - 48) * 100 + (b.toNat - 48) * 10 + (c.toNat - 48))
    else none
  | _ => none

/-- Reads a status line. The reason phrase may be missing together with the blank in front of it. -/
def readStatusLine? (line : List UInt8) : Option (Version × Nat) := do
  let version ← Version.read? (line.take 8)
  let status ← readStatus? ((line.drop 9).take 3)
  let reason := line.drop 12
  if (line.drop 8).head? = some (byte ' ') ∧ reason.head?.all (· = byte ' ') ∧
      reason.all isPlain then
    return (version, status)
  else none

/-- Reads a field. Its name is followed by a colon at once. -/
def Header.read? (line : List UInt8) : Option Header :=
  let name := line.takeWhile isNameByte
  match name, line.drop name.length with
  | [], _ => none
  | _, [] => none
  | _, colon :: value =>
    if colon = byte ':' ∧ value.all isPlain then
      some ⟨String.ofList (name.map fun b ↦ Char.ofNat (toSmall b).toNat), strip value⟩
    else none

/-- The most fields that a head may have. -/
def mostHeaders : Nat := 100

namespace Head

/-- The head that consists of the given lines. -/
def ofLines? : List (List UInt8) → Option Head
  | [] => none
  | first :: fields => do
    let (version, status) ← readStatusLine? first
    let headers ← fields.mapM Header.read?
    if headers.length ≤ mostHeaders then some ⟨version, status, headers⟩ else none

/-- Reads a head and gives what follows it. -/
def read? (bs : List UInt8) : Option (Head × List UInt8) :=
  match linesFrom? [] (dropBlankLines bs) with
  | none => none
  | some (lines, rest) => (ofLines? lines).map fun head ↦ (head, rest)

/-! ### What is left is shorter -/

theorem length_of_linesFrom? {current bs rest : List UInt8} {lines : List (List UInt8)}
    (h : linesFrom? current bs = some (lines, rest)) : rest.length < bs.length := by
  induction bs generalizing current lines with
  | nil => simp [linesFrom?] at h
  | cons b bs ih =>
    rw [linesFrom?] at h
    split at h
    · split at h
      · simp only [Option.some.injEq, Prod.mk.injEq] at h
        simp [h.2]
      · obtain ⟨⟨lines', rest'⟩, h', heq⟩ := Option.map_eq_some_iff.1 h
        simp only [Prod.mk.injEq] at heq
        obtain ⟨-, rfl⟩ := heq
        exact Nat.lt_succ_of_lt (ih h')
    · exact Nat.lt_succ_of_lt (ih h)

theorem length_dropBlankLines_le (bs : List UInt8) : (dropBlankLines bs).length ≤ bs.length := by
  fun_induction dropBlankLines bs with
  | case1 => simp
  | case2 => simp
  | case3 => simp
  | case4 _ _ ih => exact Nat.le_succ_of_le ih
  | case5 _ _ _ _ _ ih =>
    simp only [List.length_cons]
    omega
  | case6 => simp

theorem length_of_read? {bs rest : List UInt8} {head : Head} (h : read? bs = some (head, rest)) :
    rest.length < bs.length := by
  unfold read? at h
  split at h
  · simp at h
  · next lines after hlines =>
    obtain ⟨_, -, heq⟩ := Option.map_eq_some_iff.1 h
    simp only [Prod.mk.injEq] at heq
    obtain ⟨-, rfl⟩ := heq
    exact Nat.lt_of_lt_of_le (length_of_linesFrom? hlines) (length_dropBlankLines_le bs)

/-- Whether more responses follow the one with this head. -/
def isInterim (head : Head) : Bool :=
  100 ≤ head.status && head.status < 200 && head.status ≠ 101

/-- Reads the first head that is not interim. -/
def readFinal? (bs : List UInt8) : Option (Head × List UInt8) :=
  match h : read? bs with
  | none => none
  | some (head, rest) =>
    if head.isInterim then
      have : rest.length < bs.length := length_of_read? h
      readFinal? rest
    else some (head, rest)
termination_by bs.length

end Head

end TransactionHarness.Http
