/-!
# Binary floating point with 64 bits

A finite number of the binary64 format is a sign and a magnitude, and every magnitude is a whole
multiple of `2 ^ (-1074)`. So a number is kept as its sign and that multiple (`scaled`), and each
operation computes the exact result and rounds it once (`roundScaled`), to the nearest representable
magnitude and on a tie to the one with the even significand.

* `ofNat`, `mul?` and `div` are correctly rounded; only `mul?` can leave the range.
* `pow10` is the nearest number to a power of ten.
* `ofDecimal?` gives the number that is meant by a significand and a decimal exponent. It rounds the
  significand and the power of ten first and then their product or quotient.
-/

namespace TransactionHarness

/-- A finite binary64 number: `scaled * 2 ^ (-1074)`, negated if `negative`. Zero has both signs. -/
structure Binary64 where
  /-- The sign. -/
  negative : Bool
  /-- The magnitude in units of the smallest positive number. -/
  scaled : Nat
  deriving DecidableEq, Repr, Inhabited

namespace Binary64

/-- The number of units in one: a magnitude `x` is kept as `x * one`. -/
def one : Nat := Nat.pow 2 1074

/-- The least magnitude in units that is too large for the format. -/
def limit : Nat := Nat.pow 2 2098

/-- The whole number nearest to `a / d`, the even one of two that are equally near. -/
def roundDiv (a d : Nat) : Nat :=
  let q := a / d
  let r := a % d
  if 2 * r < d then q
  else if d < 2 * r then q + 1
  else if q % 2 = 0 then q else q + 1

/-- The exponent of the unit in the last place of a magnitude of `n` units: significands have at
most 53 bits. -/
def unitExponent (n : Nat) : Nat := Nat.log2 n - 52

/-- The representable magnitude nearest to `a / d` units. -/
def roundScaled (a d : Nat) : Nat :=
  let unit := Nat.pow 2 (unitExponent (a / d))
  roundDiv a (d * unit) * unit

/-- Zero with a positive sign. -/
def zero : Binary64 := ⟨false, 0⟩

/-- The same magnitude with the other sign. -/
def neg (x : Binary64) : Binary64 := ⟨!x.negative, x.scaled⟩

/-- The number nearest to a natural number of at most sixty-four bits. -/
def ofNat (n : Nat) : Binary64 := ⟨false, roundScaled (n * one) 1⟩

/-- The number nearest to an integer of at most sixty-four bits. -/
def ofInt (n : Int) : Binary64 := ⟨n < 0, (ofNat n.natAbs).scaled⟩

/-- The product, if it is within the range of the format. -/
def mul? (x y : Binary64) : Option Binary64 :=
  let scaled := roundScaled (x.scaled * y.scaled) one
  if scaled < limit then some ⟨x.negative != y.negative, scaled⟩ else none

/-- The quotient by a number that is at least one. -/
def div (x y : Binary64) : Binary64 :=
  ⟨x.negative != y.negative, roundScaled (x.scaled * one) y.scaled⟩

/-- The number nearest to the power of ten with a natural exponent of at most 308. -/
def pow10 (e : Nat) : Binary64 := ⟨false, roundScaled (Nat.pow 10 e * one) 1⟩

/-- Whether two numbers have the same value. Zeros of different sign do. -/
def sameValue (x y : Binary64) : Bool :=
  x.scaled == y.scaled && (x.negative == y.negative || x.scaled == 0)

/-- The largest exponent for which the power of ten is in range. -/
def maxPow10 : Nat := 308

/-- Divides by a power of ten whose exponent may exceed the range, in steps that do not. The number
of steps is `fuel`; it suffices that `maxPow10 * fuel` exceeds `e`. -/
def scaleDown (fuel : Nat) (x : Binary64) (e : Nat) : Binary64 :=
  match fuel with
  | 0 => x
  | fuel + 1 =>
    if e ≤ maxPow10 then x.div (pow10 e)
    else if x.scaled = 0 then x
    else scaleDown fuel (x.div (pow10 maxPow10)) (e - maxPow10)

/-- The number that is meant by `significand * 10 ^ exponent`, if it is in range. The significand
has at most sixty-four bits, so four steps down reach zero or the exponent. -/
def ofDecimal? (significand : Nat) (exponent : Int) : Option Binary64 :=
  let x := ofNat significand
  if 0 ≤ exponent then
    if exponent.natAbs ≤ maxPow10 then x.mul? (pow10 exponent.natAbs)
    else if x.scaled = 0 then some x else none
  else some (scaleDown 4 x exponent.natAbs)

/-- The magnitude without its fraction. -/
def wholePart (x : Binary64) : Nat := x.scaled / one

/-- The part of the number behind the point, with the sign of the number. -/
def fraction (x : Binary64) : Binary64 := ⟨x.negative, x.scaled % one⟩

/-- The whole number nearest to the magnitude, the larger one of two that are equally near. -/
def roundHalfUp (x : Binary64) : Nat := (2 * x.scaled + one) / (2 * one)

end Binary64

end TransactionHarness
