import TransactionHarness.Text.Blank
import TransactionHarness.Text.Numeral
/-!
# Network addresses

An address of thirty-two bits is written as one to four numbers, decimal, octal with a leading zero,
or hexadecimal with a leading `0x`; the last number fills all the bytes that are left. An address of
a hundred and twenty-eight bits is written as eight hexadecimal pieces with colons in between. Two
colons stand for a gap of zeros, and the last two pieces may be written as four decimal bytes.
-/

namespace TransactionHarness.Address

open Text

/-! ### Thirty-two bits -/

/-- An octal digit. -/
def isOctalDigit (c : Char) : Bool := '0' ≤ c && c ≤ '7'

/-- A hexadecimal digit. -/
def isHexDigit (c : Char) : Bool := (hexDigit? c).isSome

/-- The value of digits to a base. -/
def valueOf (base : Nat) (digits : List Char) : Nat :=
  digits.foldl (fun n c ↦ n * base + (hexDigit? c).getD 0) 0

/-- The value of the digits, if each of them is one. Without digits it is zero. -/
def readBase (isDigit : Char → Bool) (base : Nat) (digits : List Char) : Option Nat :=
  if digits.all isDigit then some (valueOf base digits) else none

/-- Reads a number of any size, in the notation that its beginning tells. -/
def readNumber? : List Char → Option Nat
  | [] => none
  | '0' :: 'x' :: digits => readBase isHexDigit 16 digits
  | '0' :: 'X' :: digits => readBase isHexDigit 16 digits
  | '0' :: d :: digits => readBase isOctalDigit 8 (d :: digits)
  | digits => readBase isDecimalDigit 10 digits

/-- The labels of a name without an empty one at the end. -/
def labels (name : List Char) : List (List Char) :=
  let all := pieces '.' name
  if all.getLast? = some [] then all.dropLast else all

/-- Whether the last label of a name is a number. Such a name has to be an address. -/
def endsInNumber (name : List Char) : Bool :=
  match (labels name).getLast? with
  | some last => (!last.isEmpty && last.all isDecimalDigit) || (readNumber? last).isSome
  | none => false

/-- The address whose leading bytes are given and whose other bytes hold `last`. -/
def joinBytes? (leading : List Nat) (last : Nat) : Option Nat :=
  let free := 4 - leading.length
  if leading.all (· < 256) && last < Nat.pow 256 free then
    some (leading.foldl (fun n b ↦ n * 256 + b) 0 * Nat.pow 256 free + last)
  else none

/-- Reads an address of thirty-two bits. -/
def readShort? (name : List Char) : Option Nat :=
  let parts := labels name
  if 4 < parts.length then none
  else do
    let numbers ← parts.mapM readNumber?
    let last ← numbers.getLast?
    joinBytes? numbers.dropLast last

/-! ### A hundred and twenty-eight bits -/

/-- A decimal byte without leading zeros. -/
def readByte? (digits : List Char) : Option Nat := do
  let n ← readDigits? digits
  if n < 256 && (digits.length == 1 || digits.head? != some '0') then some n else none

/-- Two pieces that are written as four decimal bytes. -/
def readBytePair? (s : List Char) : Option (Nat × Nat) := do
  match ← (pieces '.' s).mapM readByte? with
  | [a, b, c, d] => some (a * 256 + b, c * 256 + d)
  | _ => none

/-- Reads the pieces of an address behind those already read, and where the gap is. -/
def readPieces (read : List Nat) (gap? : Option Nat) (s : List Char) :
    Option (List Nat × Option Nat) :=
  match s with
  | [] => some (read, gap?)
  | c :: rest =>
    if 8 ≤ read.length then none
    else if c = ':' then
      if gap?.isSome then none else readPieces (read ++ [0]) (some (read.length + 1)) rest
    else
      let group := ((c :: rest).take 4).takeWhile isHexDigit
      match h : (c :: rest).drop group.length with
      | [] => some (read ++ [valueOf 16 group], gap?)
      | '.' :: _ =>
        if group.isEmpty || 6 < read.length then none
        else (readBytePair? (c :: rest)).map fun (a, b) ↦ (read ++ [a, b], gap?)
      | ':' :: more =>
        have : more.length ≤ rest.length := by
          have := congrArg List.length h
          simp only [List.length_drop, List.length_cons] at this
          omega
        if more.isEmpty then none else readPieces (read ++ [valueOf 16 group]) gap? more
      | _ => none
termination_by s.length

/-- Fills the gap with zeros. Without a gap there have to be eight pieces. -/
def fillGap? (read : List Nat) : Option Nat → Option (List Nat)
  | some gap => some (read.take gap ++ List.replicate (8 - read.length) 0 ++ read.drop gap)
  | none => if read.length = 8 then some read else none

/-- Reads an address of a hundred and twenty-eight bits. -/
def readLong? (s : List Char) : Option (List Nat) :=
  match s with
  | ':' :: ':' :: rest => do
    let (read, gap?) ← readPieces [0] (some 1) rest
    fillGap? read gap?
  | ':' :: _ => none
  | [] => none
  | _ => do
    let (read, gap?) ← readPieces [] none s
    fillGap? read gap?

end TransactionHarness.Address
