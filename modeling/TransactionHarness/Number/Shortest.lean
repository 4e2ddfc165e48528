import TransactionHarness.Number.Binary64
/-!
# Shortest decimal text of a binary64 number

The decimals that a reader rounds to a given number form an interval around it, whose ends belong to
it when the significand is even. The text of the number is taken from the coarsest grid of powers of
ten that has a point in the interval: of the two grid points next to the number the nearer one that
lies inside, the even one when both are equally near. No decimal with fewer digits reads back.

`render` writes the digits: with a point where the leading digit's exponent lies in a range, and
otherwise with an exponent.
-/

namespace TransactionHarness.Binary64

/-- A positive decimal `digits * 10 ^ exponent`. -/
structure Decimal where
  digits : Nat
  exponent : Int
  deriving DecidableEq, Repr

/-- Four times the distance from a magnitude to the upper end of its interval. -/
def roomAbove (n : Nat) : Nat := 2 * Nat.pow 2 (unitExponent n)

/-- Four times the distance from a magnitude to the lower end of its interval. Below a power of two
the representable magnitudes lie twice as close, except at the smallest unit. -/
def roomBelow (n : Nat) : Nat :=
  let e := unitExponent n
  if e ≠ 0 ∧ n = Nat.pow 2 (e + 52) then Nat.pow 2 e else 2 * Nat.pow 2 e

/-- The significand of a magnitude. -/
def significand (n : Nat) : Nat := n / Nat.pow 2 (unitExponent n)

/-- Whether `a / d` units lie in the interval of the magnitude `n`. -/
def reads (n a d : Nat) : Bool :=
  let low := (4 * n - roomBelow n) * d
  let high := (4 * n + roomAbove n) * d
  if significand n % 2 = 0 then low ≤ 4 * a && 4 * a ≤ high else low < 4 * a && 4 * a < high

/-- The point of the grid of `10 ^ e` to write for the magnitude `n`, if one reads back. -/
def gridPoint? (n : Nat) (e : Int) : Option Nat :=
  -- one step of the grid is `step / scale` units
  let step := if 0 ≤ e then Nat.pow 10 e.natAbs * one else one
  let scale := if 0 ≤ e then 1 else Nat.pow 10 e.natAbs
  let below := n * scale / step
  let rest := n * scale % step
  let belowReads := below ≠ 0 && reads n (below * step) scale
  let aboveReads := reads n ((below + 1) * step) scale
  if belowReads && aboveReads then
    if 2 * rest < step then some below
    else if step < 2 * rest then some (below + 1)
    else if below % 2 = 0 then some below else some (below + 1)
  else if belowReads then some below
  else if aboveReads then some (below + 1)
  else none

/-- Searches the grids of `10 ^ e`, `10 ^ (e - 1)`, … and stops at the first that has a point. -/
def coarsest? (n : Nat) : Nat → Int → Option Decimal
  | 0, _ => none
  | fuel + 1, e =>
    match gridPoint? n e with
    | some digits => some ⟨digits, e⟩
    | none => coarsest? n fuel (e - 1)

/-- An exponent whose power of ten exceeds the magnitude `n` by a factor of less than a thousand:
`30103 / 100000` is the logarithm of two, rounded up. -/
def startExponent (n : Nat) : Int := ((Nat.log2 n : Int) - 1073) * 30103 / 100000 + 1

/-- The shortest decimal for a positive magnitude. Seventeen digits always suffice. -/
def shortest (n : Nat) : Decimal := (coarsest? n 24 (startExponent n)).getD ⟨0, 0⟩

/-- Where the point stands and when an exponent is written. -/
structure Layout where
  /-- The least exponent of the leading digit that is written with a point. -/
  leastPositional : Int
  /-- The greatest exponent of the leading digit that is written with a point. -/
  greatestPositional : Int
  /-- What stands between the digits and a non-negative exponent. -/
  positiveMark : String
  /-- What stands between the digits and a negative exponent. -/
  negativeMark : String

/-- The digits with a point after the first `k` of them. -/
def withPoint (digits : List Char) (k : Nat) : List Char :=
  digits.take k ++ '.' :: digits.drop k

/-- The text of a positive decimal. A whole number that is written with a point gets one zero behind
it; digits in front of an exponent have a point only if there is more than one. -/
def Decimal.render (layout : Layout) (x : Decimal) : List Char :=
  let digits := Nat.toDigits 10 x.digits
  let lead := x.exponent + (digits.length : Int) - 1
  if layout.leastPositional ≤ lead ∧ lead ≤ layout.greatestPositional then
    if 0 ≤ x.exponent then digits ++ List.replicate x.exponent.natAbs '0' ++ ['.', '0']
    else if 0 ≤ lead then withPoint digits (lead.natAbs + 1)
    else '0' :: '.' :: (List.replicate (lead.natAbs - 1) '0' ++ digits)
  else
    let front := if digits.length = 1 then digits else withPoint digits 1
    let mark := if 0 ≤ lead then layout.positiveMark else layout.negativeMark
    front ++ mark.toList ++ Nat.toDigits 10 lead.natAbs

/-- The text of a number. -/
def render (layout : Layout) (x : Binary64) : List Char :=
  let magnitude :=
    if x.scaled = 0 then ['0', '.', '0'] else (shortest x.scaled).render layout
  if x.negative then '-' :: magnitude else magnitude

end TransactionHarness.Binary64
