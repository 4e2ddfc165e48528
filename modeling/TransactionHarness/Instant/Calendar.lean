import TransactionHarness.Instant.Basic
/-!
# The calendar

Dates of the Gregorian calendar, extended to all years, and the days since the first of January of
the year one. `dayNumber` counts the days up to a date, and `ofDayNumber` finds the date again.
-/

namespace TransactionHarness

/-- A date. -/
structure Date where
  year : Int
  month : Nat
  day : Nat
  deriving DecidableEq, Repr, Inhabited

namespace Date

/-- Whether a year has a twenty-ninth of February. -/
def isLeapYear (year : Int) : Bool := year % 4 == 0 && (year % 100 != 0 || year % 400 == 0)

/-- The lengths of the months of a year. -/
def monthLengths (year : Int) : List Nat :=
  [31, if isLeapYear year then 29 else 28, 31, 30, 31, 30, 31, 31, 30, 31, 30, 31]

/-- The number of days in front of a year. -/
def daysBeforeYear (year : Int) : Int :=
  let y := year - 1
  365 * y + y / 4 - y / 100 + y / 400

/-- The number of days of a year in front of a month. -/
def daysBeforeMonth (year : Int) (month : Nat) : Nat :=
  ((monthLengths year).take (month - 1)).foldl (· + ·) 0

/-- The number of days from the first of January of the year one to a date. -/
def dayNumber (d : Date) : Int :=
  daysBeforeYear d.year + daysBeforeMonth d.year d.month + (d.day - 1 : Nat)

/-- Whether a date exists. -/
def isValid (d : Date) : Bool :=
  match (monthLengths d.year)[d.month - 1]? with
  | some length => 1 ≤ d.month && 1 ≤ d.day && d.day ≤ length
  | none => false

/-- The month and the day of the month, from the days since the start of the month with the given
number and the lengths of the months from there on. -/
def monthAndDay (month : Nat) (days : Nat) : List Nat → Nat × Nat
  | [] => (month, days + 1)
  | length :: rest =>
    if days < length then (month, days + 1) else monthAndDay (month + 1) (days - length) rest

/-- The date with the given day number. Four hundred years have 146097 days; of the four centuries
in them the last is a day longer than the others, as is the last year of four. -/
def ofDayNumber (n : Int) : Date :=
  let cycles := n / 146097
  let inCycle := (n % 146097).toNat
  let centuries := min (inCycle / 36524) 3
  let inCentury := inCycle - centuries * 36524
  let leaps := inCentury / 1461
  let inLeap := inCentury - leaps * 1461
  let years := min (inLeap / 365) 3
  let year := 400 * cycles + (100 * centuries + 4 * leaps + years : Nat) + 1
  let (month, day) := monthAndDay 1 (inLeap - years * 365) (monthLengths year)
  ⟨year, month, day⟩

/-- The day number of 1970-01-01. -/
def epochDay : Int := 719162

end Date

/-- Seconds in a day. -/
def secondsPerDay : Nat := 86400

end TransactionHarness
