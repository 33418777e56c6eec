import Quire.Number.Binary64

/-!
# Shortest decimals

The decimal with the fewest digits among those that round to a given number, and of these the one
nearest to it, together with the layouts in which such a decimal is written. Where two are equally
near, the layout says which one is meant.
-/

namespace Quire

namespace Decimal

/-- The number of digits of a natural. -/
def digitCount (n : Nat) : Nat :=
  (Nat.toDigits 10 n).length

/-- The exponent of the largest power of ten that does not exceed the positive ratio `n / d`. -/
def floorLog10 (n d : Nat) : Int :=
  if n ≥ d then (digitCount (n / d) : Int) - 1
  else
    let k := digitCount (d / n) - 1
    if n * 10 ^ k ≥ d then -(k : Int) else -(k : Int) - 1

/-- The ratio `n / d` divided by a power of ten, again as a ratio. -/
def divideByPower (n d : Nat) (power : Int) : Nat × Nat :=
  if power ≥ 0 then (n, d * 10 ^ power.toNat) else (n * 10 ^ (-power).toNat, d)

/-- The reals that round to a number, in quarters of its unit over `denominator`: from `low` to
`high` around `value`, ends included iff `closed`. -/
structure Span where
  low : Nat
  value : Nat
  high : Nat
  denominator : Nat
  closed : Bool

/-- The reals that round to a positive number. -/
def Span.of (x : Binary64) : Span :=
  let gap := if x.significand = 2 ^ 52 && x.exponent > -1074 then 1 else 2
  let quarters := 4 * x.significand
  let scale (n : Nat) := (Binary64.divideByPower n 4 (-x.exponent)).1
  { low := scale (quarters - gap)
    value := scale quarters
    high := scale (quarters + 2)
    denominator := (Binary64.divideByPower 1 4 (-x.exponent)).2
    closed := x.significand % 2 == 0 }

/-- Whether `n · 10 ^ power` rounds to the number. -/
def Span.holds (s : Span) (n : Nat) (power : Int) : Bool :=
  let (a, b) :=
    if power ≥ 0 then (n * 10 ^ power.toNat * s.denominator, 1)
    else (n * s.denominator, 10 ^ (-power).toNat)
  let low := s.low * b
  let high := s.high * b
  if s.closed then low ≤ a && a ≤ high else low < a && a < high

/-- Which of two neighbouring decimals is taken if both are equally near. -/
inductive Tie where
  /-- The one whose last digit is even. -/
  | even
  /-- The one with the greater magnitude. -/
  | away

/-- Whether a tie goes to the smaller one of two neighbours. -/
def Tie.isBelow (tie : Tie) (below : Nat) : Bool :=
  match tie with
  | even => below % 2 == 0
  | away => false

/-- The multiple of `10 ^ power` that is next to the number and rounds to it. -/
def Span.onGrid (s : Span) (tie : Tie) (power : Int) : Option Nat :=
  let (n, d) := divideByPower s.value s.denominator power
  let below := n / d
  let above := below + 1
  let twice := 2 * (n % d)
  match s.holds below power, s.holds above power with
  | true, true =>
    if twice < d || (twice == d && tie.isBelow below) then some below else some above
  | true, false => some below
  | false, true => some above
  | false, false => none

/-- The first hit on the grids from `power` downwards. -/
def Span.search (s : Span) (tie : Tie) : Nat → Int → Nat × Int
  | 0, power => (s.value / s.denominator, power)
  | grids + 1, power =>
    match s.onGrid tie power with
    | some n => (n, power)
    | none => s.search tie grids (power - 1)

/-- Moves zeros at the end of the digits into the exponent. -/
def dropZeros : Nat → Nat → Int → Nat × Int
  | 0, n, power => (n, power)
  | fuel + 1, n, power =>
    if n ≠ 0 ∧ n % 10 = 0 then dropZeros fuel (n / 10) (power + 1) else (n, power)

end Decimal

/-- The fewest digits that read back as the magnitude of the number, as a natural and a power of
ten. -/
def Binary64.shortest (x : Binary64) (tie : Decimal.Tie) : Nat × Int :=
  if x.isZero then (0, 0)
  else
    let span := Decimal.Span.of x
    let (n, power) := span.search tie 18 (Decimal.floorLog10 span.value span.denominator)
    Decimal.dropZeros (Decimal.digitCount n) n power

/-- How decimals are written: which of two equally near ones is taken, the exponents of the first
digit that are written without an exponent, and how many digits follow the point at least. -/
structure DecimalLayout where
  tie : Decimal.Tie
  positional : Int → Bool
  leastFraction : Nat

namespace DecimalLayout

/-- The digits `ds`, the last of which counts `10 ^ power`, written without an exponent. -/
def writePositional (layout : DecimalLayout) (ds : List Char) (power : Int) : List Char :=
  let zeros (n : Nat) := List.replicate n '0'
  let whole : List Char :=
    if power ≥ 0 then ds ++ zeros power.toNat else ds.take (ds.length - (-power).toNat)
  let fraction : List Char :=
    if power ≥ 0 then []
    else zeros ((-power).toNat - ds.length) ++ ds.drop (ds.length - (-power).toNat)
  let fraction := fraction ++ zeros (layout.leastFraction - fraction.length)
  (if whole.isEmpty then ['0'] else whole) ++ (if fraction.isEmpty then [] else '.' :: fraction)

/-- The digits `ds` with a point after the first and the exponent of the first. -/
def writeScientific (ds : List Char) (exponent : Int) : List Char :=
  let mantissa := if ds.length ≤ 1 then ds else ds.take 1 ++ '.' :: ds.drop 1
  mantissa ++ 'e' :: (if exponent < 0 then '-' else '+') :: Nat.toDigits 10 exponent.natAbs

/-- The text of a number. -/
def write (layout : DecimalLayout) (x : Binary64) : String :=
  let (n, power) := x.shortest layout.tie
  let ds := Nat.toDigits 10 n
  let exponent := power + ds.length - 1
  let body :=
    if layout.positional exponent then layout.writePositional ds power
    else writeScientific ds exponent
  String.ofList (if x.negative then '-' :: body else body)

/-- All digits are written, and a point only before digits; of two equally near decimals the one
with the greater magnitude is taken. -/
def plain : DecimalLayout :=
  ⟨.away, fun _ => true, 0⟩

end DecimalLayout

end Quire
