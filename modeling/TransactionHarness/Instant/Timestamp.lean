import TransactionHarness.Instant.Calendar
import TransactionHarness.Text.Numeral
/-!
# Timestamps

The text form of instants. `read?` takes timestamps as RFC 3339 describes them, with the liberties
that `chrono` allows: a space or a lower-case letter between date and time, a lower-case `z`, the
mathematical minus sign in an offset, and any number of digits in a fraction, of which nine count.
The sixtieth second of a minute is a leap second.

`display` writes an instant in universal time, the fraction in groups of three digits as far as it
is needed, and years that do not have four digits with their sign.
-/

namespace TransactionHarness.Instant

/-! ### Reading -/

/-- The value of two digits at the start of a text, and the rest. -/
def readTwo? (s : List Char) : Option (Nat × List Char) :=
  match s with
  | a :: b :: rest => do
    let a ← Text.decimalDigit? a
    let b ← Text.decimalDigit? b
    return (a * 10 + b, rest)
  | _ => none

/-- The text behind a character that has to come first. -/
def expectChar? (c : Char) (s : List Char) : Option (List Char) :=
  match s with
  | d :: rest => if d = c then some rest else none
  | [] => none

/-- The nanoseconds of a fraction, whose digits start the text, and the rest. -/
def readFraction? (s : List Char) : Option (Nat × List Char) := do
  let digits := s.takeWhile Text.isDecimalDigit
  let counted := digits.take 9
  let n ← Text.readDigits? counted
  return (n * Nat.pow 10 (9 - counted.length), s.dropWhile Text.isDecimalDigit)

/-- The seconds by which local time is ahead, from a text that is an offset. -/
def readOffset? (s : List Char) : Option Int :=
  match s with
  | ['Z'] => some 0
  | ['z'] => some 0
  | sign :: rest => do
    let factor : Int ← if sign = '+' then some 1
      else if sign = '-' ∨ sign = '−' then some (-1) else none
    let (hours, rest) ← readTwo? rest
    let rest ← expectChar? ':' rest
    let (minutes, rest) ← readTwo? rest
    if rest.isEmpty ∧ hours < 24 ∧ minutes < 60 then
      some (factor * (hours * 3600 + minutes * 60 : Nat))
    else none
  | [] => none

/-- The instant that a timestamp names. -/
def read? (s : List Char) : Option Instant := do
  let (century, rest) ← readTwo? s
  let (yearOfCentury, rest) ← readTwo? rest
  let rest ← expectChar? '-' rest
  let (month, rest) ← readTwo? rest
  let rest ← expectChar? '-' rest
  let (day, rest) ← readTwo? rest
  let rest ← match rest with
    | mark :: rest => if mark = 'T' ∨ mark = 't' ∨ mark = ' ' then some rest else none
    | [] => none
  let (hour, rest) ← readTwo? rest
  let rest ← expectChar? ':' rest
  let (minute, rest) ← readTwo? rest
  let rest ← expectChar? ':' rest
  let (second, rest) ← readTwo? rest
  let (fraction, rest) ← match rest with
    | '.' :: rest => readFraction? rest
    | _ => some (0, rest)
  let offset ← readOffset? rest
  let date : Date := ⟨(century * 100 + yearOfCentury : Nat), month, day⟩
  if date.isValid ∧ hour < 24 ∧ minute < 60 ∧ second ≤ 60 then
    let (second, leap) := if second = 60 then (59, nanosPerSecond) else (second, 0)
    let time := hour * 3600 + minute * 60 + second
    ofSeconds? ((date.dayNumber - Date.epochDay) * secondsPerDay + time - offset) (fraction + leap)
  else none

/-! ### Writing -/

/-- A number with leading zeros, in at least as many digits as given. -/
def padded (width n : Nat) : List Char :=
  let digits := Nat.toDigits 10 n
  List.replicate (width - digits.length) '0' ++ digits

/-- A year. -/
def displayYear (year : Int) : List Char :=
  if 0 ≤ year ∧ year ≤ 9999 then padded 4 year.toNat
  else (if year < 0 then '-' else '+') :: padded 4 year.natAbs

/-- A fraction of a second with its point. -/
def displayFraction (nanos : Nat) : List Char :=
  if nanos = 0 then []
  else if nanos % 1000000 = 0 then '.' :: padded 3 (nanos / 1000000)
  else if nanos % 1000 = 0 then '.' :: padded 6 (nanos / 1000)
  else '.' :: padded 9 nanos

/-- The timestamp of an instant. -/
def display (t : Instant) : String :=
  let date := Date.ofDayNumber (t.seconds / secondsPerDay + Date.epochDay)
  let time := (t.seconds % secondsPerDay).toNat
  let second := time % 60 + t.nanos / nanosPerSecond
  String.ofList <|
    displayYear date.year ++ '-' :: padded 2 date.month ++ '-' :: padded 2 date.day ++
      'T' :: padded 2 (time / 3600) ++ ':' :: padded 2 (time / 60 % 60) ++ ':' :: padded 2 second ++
      displayFraction (t.nanos % nanosPerSecond) ++ ['Z']

end TransactionHarness.Instant
