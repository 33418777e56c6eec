import Quire.Json.Scan

/-!
# JSON numerals

The parts of a numeral and the number it stands for. A numeral without fraction and exponent that
fits 64 bits is an integer. Any other one keeps as many leading digits as fit 64 bits and is scaled
by a power of ten in binary64 arithmetic.
-/

namespace Quire.Json

/-- The parts of a numeral. -/
structure Numeral where
  negative : Bool
  whole : List Char
  fraction : List Char
  /-- Whether the exponent is negative, and its digits. -/
  exponent : Option (Bool × List Char)

namespace Numeral

/-- The digits at the start of a text and the rest. -/
def digits (cs : List Char) : List Char × List Char :=
  (cs.takeWhile Char.isDigit, cs.dropWhile Char.isDigit)

/-- Reads at least one digit. -/
def readDigits : Reader (List Char) := fun cs =>
  match digits cs with
  | ([], []) => .error .endOfText
  | ([], _) => .error .malformed
  | found => .ok found

/-- Reads the fraction of a numeral, if there is one. -/
def readFraction : Reader (List Char)
  | '.' :: rest => readDigits rest
  | cs => .ok ([], cs)

/-- Reads the exponent of a numeral, if there is one. -/
def readExponent : Reader (Option (Bool × List Char)) := fun cs =>
  match cs with
  | c :: rest =>
    if c = 'e' ∨ c = 'E' then do
      let (negative, rest) := match rest with
        | '+' :: rest => (false, rest)
        | '-' :: rest => (true, rest)
        | rest => (false, rest)
      let (ds, rest) ← readDigits rest
      .ok (some (negative, ds), rest)
    else .ok (none, cs)
  | [] => .ok (none, cs)

/-- Reads a numeral after its sign. -/
def read (negative : Bool) : Reader Numeral := fun cs => do
  let (whole, rest) ← readDigits cs
  if whole.length > 1 && whole.head? == some '0' then .error .malformed
  else
    let (fraction, rest) ← readFraction rest
    let (exponent, rest) ← readExponent rest
    .ok (⟨negative, whole, fraction, exponent⟩, rest)

/-- The value of a decimal digit. -/
def digitValue (c : Char) : Nat :=
  c.toNat - '0'.toNat

/-- Appends digits to a natural as long as it fits 64 bits, and counts the digits left over. -/
def absorb (n : Nat) : List Char → Nat × Nat
  | [] => (n, 0)
  | d :: ds =>
    let next := n * 10 + digitValue d
    if next < 2 ^ 64 then absorb next ds else (n, (d :: ds).length)

/-- The number `x · 10 ^ exponent`, in steps of at most 308 places; `none` if it is too large. -/
def scale : Nat → Binary64 → Int → Option Binary64
  | 0, x, _ => some x
  | steps + 1, x, exponent =>
    let power (n : Nat) := Binary64.ofRatio false (10 ^ n) 1
    if exponent.natAbs ≤ 308 then do
      let ten ← power exponent.natAbs
      if exponent ≥ 0 then x.mul ten else x.div ten
    else if x.isZero then some x
    else if exponent ≥ 0 then none
    else do
      let ten ← power 308
      scale steps (← x.div ten) (exponent + 308)

/-- The number of a numeral that is not an integer of 64 bits. -/
def toDouble? (n : Numeral) : Option Binary64 := do
  let (significand, wholeLeft) := absorb 0 n.whole
  let (significand, fractionLeft) := absorb significand n.fraction
  let places : Int := (wholeLeft : Int) - (n.fraction.length - fractionLeft : Nat)
  let signed (x : Binary64) := if n.negative then x.neg else x
  match n.exponent with
  | none =>
    let x ← Binary64.ofRatio false significand 1
    signed <$> scale 4 x places
  | some (negative, ds) =>
    let exponent := Decimal.value ds
    if exponent ≥ 2 ^ 31 then
      if significand ≠ 0 ∧ ¬negative then none else some (Binary64.zero n.negative)
    else
      let x ← Binary64.ofRatio false significand 1
      signed <$> scale 4 x (if negative then places - exponent else places + exponent)

/-- The integer of 64 bits that a numeral without fraction and exponent stands for; minus zero is
not an integer. -/
def toInt? (n : Numeral) : Option Int :=
  if n.fraction.isEmpty && n.exponent.isNone then
    let magnitude := Decimal.value n.whole
    if n.negative then
      if magnitude ≠ 0 ∧ magnitude ≤ 2 ^ 63 then some (-(magnitude : Int)) else none
    else if magnitude < 2 ^ 64 then some magnitude else none
  else none

/-- The number of a numeral; `none` if it is out of range. -/
def toJson? (n : Numeral) : Option Json :=
  match n.toInt? with
  | some i => some (.int i)
  | none => n.toDouble?.map .double

end Numeral

/-- Reads a number after its sign. -/
def readNumber (negative : Bool) : Reader Json := fun cs => do
  let (numeral, rest) ← Numeral.read negative cs
  match numeral.toJson? with
  | some value => .ok (value, rest)
  | none => .error .malformed

end Quire.Json
