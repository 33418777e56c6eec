import Quire.Number.Decimal

/-!
# Binary64 numbers

The finite numbers of IEEE binary64 as sign, significand and exponent, in exact arithmetic. An
operation computes the exact result as a ratio and rounds it once, to the nearest number with ties
to the even significand. A result that is too large for the format is `none`.
-/

namespace Quire

/-- A significand of 53 bits with its exponent; only the smallest exponent has fewer bits. -/
def Binary64.Canonical (significand : Nat) (exponent : Int) : Prop :=
  significand < 2 ^ 53 ∧ -1074 ≤ exponent ∧ exponent ≤ 971 ∧
    (2 ^ 52 ≤ significand ∨ exponent = -1074)

instance (significand : Nat) (exponent : Int) :
    Decidable (Binary64.Canonical significand exponent) :=
  inferInstanceAs (Decidable (_ ∧ _))

/-- The number `± significand · 2 ^ exponent`. -/
structure Binary64 where
  negative : Bool
  significand : Nat
  exponent : Int
  canonical : Binary64.Canonical significand exponent
deriving DecidableEq

namespace Binary64

/-- Zero with a sign. -/
def zero (negative : Bool) : Binary64 :=
  ⟨negative, 0, -1074, by decide⟩

/-- The number with these parts, if the format has it. -/
def ofParts? (negative : Bool) (significand : Nat) (exponent : Int) : Option Binary64 :=
  if h : Canonical significand exponent then some ⟨negative, significand, exponent, h⟩ else none

/-- Whether a number is zero of either sign. -/
def isZero (x : Binary64) : Bool :=
  x.significand == 0

/-- The number with the other sign. -/
def neg (x : Binary64) : Binary64 :=
  { x with negative := !x.negative }

/-- The quotient of two naturals rounded to the nearest natural, a half to the even one. -/
def roundedQuotient (n d : Nat) : Nat :=
  let q := n / d
  let r := n % d
  if 2 * r > d || (2 * r == d && q % 2 == 1) then q + 1 else q

/-- The ratio `n / d` divided by a power of two, again as a ratio. -/
def divideByPower (n d : Nat) (power : Int) : Nat × Nat :=
  if power ≥ 0 then (n, d * 2 ^ power.toNat) else (n * 2 ^ (-power).toNat, d)

/-- The exponent of the largest power of two that does not exceed the positive ratio `n / d`. -/
def floorLog2 (n d : Nat) : Int :=
  let guess : Int := (n.log2 : Int) - (d.log2 : Int)
  let (a, b) := divideByPower n d guess
  if a ≥ b then guess else guess - 1

/-- The number nearest to `± n / d`. -/
def ofRatio (negative : Bool) (n d : Nat) : Option Binary64 :=
  if n = 0 then some (zero negative)
  else
    let exponent := max (floorLog2 n d - 52) (-1074)
    let (a, b) := divideByPower n d exponent
    let significand := roundedQuotient a b
    if significand = 2 ^ 53 then ofParts? negative (2 ^ 52) (exponent + 1)
    else ofParts? negative significand exponent

/-- The number nearest to `value · 2 ^ exponent`; `zeroNegative` is the sign of a zero result. -/
def ofScaled (zeroNegative : Bool) (value : Int) (exponent : Int) : Option Binary64 :=
  let (n, d) := divideByPower value.natAbs 1 (-exponent)
  ofRatio (if value = 0 then zeroNegative else value < 0) n d

/-- The number nearest to an integer. -/
def ofInt (i : Int) : Option Binary64 :=
  ofScaled false i 0

/-- The number as a multiple of `2 ^ exponent`, for an exponent not above its own. -/
def scaled (x : Binary64) (exponent : Int) : Int :=
  let magnitude : Int := x.significand * 2 ^ (x.exponent - exponent).toNat
  if x.negative then -magnitude else magnitude

/-- The nearest number to the sum. -/
def add (x y : Binary64) : Option Binary64 :=
  let exponent := min x.exponent y.exponent
  ofScaled (x.negative && y.negative) (x.scaled exponent + y.scaled exponent) exponent

/-- The nearest number to the difference. -/
def sub (x y : Binary64) : Option Binary64 :=
  x.add y.neg

/-- The nearest number to the product. -/
def mul (x y : Binary64) : Option Binary64 :=
  let (n, d) := divideByPower (x.significand * y.significand) 1 (-(x.exponent + y.exponent))
  ofRatio (x.negative != y.negative) n d

/-- The nearest number to the quotient; a zero divisor has none. -/
def div (x y : Binary64) : Option Binary64 :=
  if y.isZero then none
  else
    let (n, d) := divideByPower x.significand y.significand (y.exponent - x.exponent)
    ofRatio (x.negative != y.negative) n d

/-- The remainder of a division toward zero, with the sign of the dividend; a zero divisor has
none. -/
def rem (x y : Binary64) : Option Binary64 :=
  if y.isZero then none
  else
    let exponent := min x.exponent y.exponent
    ofScaled x.negative ((x.scaled exponent).tmod (y.scaled exponent)) exponent

/-- Whether `x` is less than `y` as a real number. -/
def lt (x y : Binary64) : Bool :=
  let exponent := min x.exponent y.exponent
  x.scaled exponent < y.scaled exponent

/-- Whether `x` and `y` are the same real number. -/
def same (x y : Binary64) : Bool :=
  let exponent := min x.exponent y.exponent
  x.scaled exponent == y.scaled exponent

/-- The number as an integer, if it is one. -/
def toInt? (x : Binary64) : Option Int :=
  if x.exponent ≥ 0 then some (x.scaled 0)
  else
    let unit : Int := 2 ^ (-x.exponent).toNat
    let value := x.scaled x.exponent
    if value.tmod unit = 0 then some (value.tdiv unit) else none

end Binary64

end Quire
