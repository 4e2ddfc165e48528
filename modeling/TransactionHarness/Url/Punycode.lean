/-!
# Punycode

A label of a domain name that is not ASCII can be written in ASCII: its ASCII characters in order, a
hyphen if there are any, and digits to the base thirty-six that say which other characters go where.
The digits form numbers of varying length; `Progress` is how far one of them has been read.
-/

namespace TransactionHarness.Punycode

/-- The value of a digit: letters of either case and then decimal digits. -/
def digit? (c : Char) : Option Nat :=
  let n := c.toNat
  if 0x61 ≤ n && n ≤ 0x7A then some (n - 0x61)
  else if 0x41 ≤ n && n ≤ 0x5A then some (n - 0x41)
  else if 0x30 ≤ n && n ≤ 0x39 then some (n - 0x30 + 26)
  else none

/-- The number of digit values. -/
def base : Nat := 36

/-- The value from which on a digit at position `k` is not the last one. -/
def threshold (k bias : Nat) : Nat :=
  if k ≤ bias then 1 else if bias + 26 ≤ k then 26 else k - bias

/-- The bias for numbers in the range of `delta`, on top of `k`. -/
def biasFor (delta k : Nat) : Nat :=
  if 455 < delta then biasFor (delta / 35) (k + base) else k + base * delta / (delta + 38)
termination_by delta
decreasing_by omega

/-- The bias after a number, when `length` characters are in place. -/
def adapt (delta length : Nat) (isFirst : Bool) : Nat :=
  let damped := if isFirst then delta / 700 else delta / 2
  biasFor (damped + damped / length) 0

/-- How far a label has been read. -/
structure Progress where
  /-- The characters in place. -/
  characters : List Char
  /-- The code point that was put in place last. -/
  codePoint : Nat := 128
  /-- Where a character was put in place last, and the number as far as it is read on top of that.
  -/
  index : Nat := 0
  start : Nat := 0
  bias : Nat := 72
  weight : Nat := 1
  position : Nat := 36

/-- Puts a character in place when its number is complete. -/
def insert (p : Progress) : Option Progress :=
  let length := p.characters.length + 1
  let codePoint := p.codePoint + p.index / length
  let index := p.index % length
  if codePoint.isValidChar then
    some { characters := p.characters.take index ++ Char.ofNat codePoint :: p.characters.drop index
           codePoint
           index := index + 1
           start := index + 1
           bias := adapt (p.index - p.start) length (p.start == 0) }
  else none

/-- The limit of the numbers that a label can hold. -/
def limit : Nat := 0x100000000

/-- Reads a digit. -/
def readDigit (p : Progress) (c : Char) : Option Progress :=
  match digit? c with
  | none => none
  | some d =>
    let p := { p with index := p.index + d * p.weight }
    let t := threshold p.position p.bias
    let weight := p.weight * (base - t)
    if limit ≤ p.index then none
    else if d < t then insert p
    else if limit ≤ weight then none
    else some { p with weight, position := p.position + base }

/-- The ASCII characters of a label and the digits behind them. A hyphen that has no character in
front of it does not part them. -/
def split (label : List Char) : List Char × List Char :=
  let digits := (label.reverse.takeWhile (· != '-')).reverse
  let basic := label.take (label.length - digits.length - 1)
  if basic.isEmpty then ([], label) else (basic, digits)

/-- The characters that an encoded label stands for. -/
def decode? (label : List Char) : Option (List Char) :=
  let (basic, digits) := split label
  if basic.any fun c ↦ 0x80 ≤ c.toNat then none
  else match digits.foldlM readDigit { characters := basic } with
    | some p => if p.weight = 1 ∧ p.position = base then some p.characters else none
    | none => none

end TransactionHarness.Punycode
