/-!
# Instants and spans of time

An instant is a number of seconds since 1970-01-01T00:00:00Z and a number of nanoseconds. In a leap
second the nanoseconds count on from a thousand million, so that instants compare by their seconds
first and by their nanoseconds after that. The calendar has an end in both directions, and instants
outside it do not exist (`inCalendar`).

`sub?` subtracts a span of time. A leap second that is left keeps no trace of itself; one that is
not left remains one. Bounds, order and leap seconds are those of the calendar that `chrono`
documents.
-/

namespace TransactionHarness

/-- A span of time. -/
structure Span where
  seconds : Nat
  /-- Fewer than a thousand million. -/
  nanos : Nat := 0
  deriving DecidableEq, Repr, Inhabited

/-- A point in time. -/
structure Instant where
  seconds : Int
  /-- Fewer than two thousand million; a thousand million or more in a leap second. -/
  nanos : Nat := 0
  deriving DecidableEq, Repr, Inhabited

/-- Nanoseconds in a second. -/
def nanosPerSecond : Nat := 1000000000

namespace Span

/-- The longest span that can be subtracted from an instant: the largest number of milliseconds in
sixty-four bits with a sign. -/
def longest : Span := ⟨9223372036854775, 807000000⟩

/-- Whether one span is at most as long as another. -/
def atMost (a b : Span) : Bool :=
  a.seconds < b.seconds || (a.seconds == b.seconds && a.nanos ≤ b.nanos)

/-- The digits behind a point that stand for `n` parts of `10 ^ width`, without zeros at the end. -/
def fractionDigits (width n : Nat) : List Char :=
  let digits := Nat.toDigits 10 n
  let padded := List.replicate (width - digits.length) '0' ++ digits
  (padded.reverse.dropWhile (· == '0')).reverse

/-- A number of units and its fraction, followed by the unit. -/
def displayUnits (whole fraction width : Nat) (unit : String) : String :=
  let digits := if fraction = 0 then [] else '.' :: fractionDigits width fraction
  s!"{whole}" ++ String.ofList digits ++ unit

/-- The span in the largest unit of which it has at least one. -/
def display (d : Span) : String :=
  if d.seconds ≠ 0 then displayUnits d.seconds d.nanos 9 "s"
  else if 1000000 ≤ d.nanos then displayUnits (d.nanos / 1000000) (d.nanos % 1000000) 6 "ms"
  else if 1000 ≤ d.nanos then displayUnits (d.nanos / 1000) (d.nanos % 1000) 3 "µs"
  else displayUnits d.nanos 0 0 "ns"

/-- The span, cut off at the longest one. -/
def saturated (d : Span) : Span := if d.atMost longest then d else longest

end Span

namespace Instant

/-- The first second of the calendar, at the start of the year -262143. -/
def firstSecond : Int := -8334601228800

/-- The last second of the calendar, at the end of the year 262142. -/
def lastSecond : Int := 8210266876799

/-- Whether an instant is one of the calendar. -/
def inCalendar (t : Instant) : Bool := firstSecond ≤ t.seconds && t.seconds ≤ lastSecond

/-- Whether one instant is not before another. -/
def notBefore (a b : Instant) : Bool :=
  b.seconds < a.seconds || (a.seconds == b.seconds && b.nanos ≤ a.nanos)

/-- The instant with the given seconds and nanoseconds, if the calendar has it. -/
def ofSeconds? (seconds : Int) (nanos : Nat) : Option Instant :=
  let t : Instant := ⟨seconds, nanos⟩
  if t.inCalendar then some t else none

/-- The instant a span earlier, if the calendar has it. -/
def sub? (t : Instant) (d : Span) : Option Instant :=
  if nanosPerSecond ≤ t.nanos ∧ d.seconds = 0 then ofSeconds? t.seconds (t.nanos - d.nanos)
  else
    -- a leap second is the second after the one it is counted with
    let leap := t.nanos / nanosPerSecond
    let nanos := t.nanos % nanosPerSecond
    let seconds := t.seconds + leap - d.seconds
    if d.nanos ≤ nanos then ofSeconds? seconds (nanos - d.nanos)
    else ofSeconds? (seconds - 1) (nanos + nanosPerSecond - d.nanos)

end Instant

end TransactionHarness
