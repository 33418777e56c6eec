import Quire.Number.Binary64

/-!
# TOML numbers and times

Which words are numbers, dates and times.
-/

namespace Quire.Toml

/-- Whether a word consists of digits with single underscores between them. -/
def isDigits (isDigit : Char → Bool) : List Char → Bool
  | [] => false
  | [c] => isDigit c
  | c :: '_' :: rest => isDigit c && isDigits isDigit rest
  | c :: rest => isDigit c && isDigits isDigit rest

/-- The value of digits to a base, without looking at underscores. -/
def valueOf (base : Nat) (cs : List Char) : Nat :=
  (cs.filter (· != '_')).foldl
    (fun n c =>
      n * base + (if c.isDigit then c.toNat - 48 else c.toLower.toNat - 87)) 0

/-- A word without its sign, and whether it is negative. -/
def unsigned : List Char → Bool × List Char
  | '+' :: rest => (false, rest)
  | '-' :: rest => (true, rest)
  | cs => (false, cs)

/-- Whether a word is a decimal number without zeros in front. -/
def isDecimal (cs : List Char) : Bool :=
  isDigits Char.isDigit cs && (cs.head? != some '0' || cs.length == 1)

/-- Whether a character is a digit to the base sixteen. -/
def isHexDigit (c : Char) : Bool :=
  c.isDigit || ('a' ≤ c && c ≤ 'f') || ('A' ≤ c && c ≤ 'F')

/-- Whether a word is an integer of 64 bits. -/
def isInteger (cs : List Char) : Bool :=
  match cs with
  | '0' :: 'x' :: ds => isDigits isHexDigit ds && valueOf 16 ds < 2 ^ 63
  | '0' :: 'o' :: ds => isDigits (fun c => '0' ≤ c && c ≤ '7') ds && valueOf 8 ds < 2 ^ 63
  | '0' :: 'b' :: ds => isDigits (fun c => c == '0' || c == '1') ds && valueOf 2 ds < 2 ^ 63
  | cs =>
    let (negative, ds) := unsigned cs
    isDecimal ds && valueOf 10 ds < 2 ^ 63 + (if negative then 1 else 0)

/-- Whether `significand · 10 ^ places` rounds to no binary64 number, being too large. Where the
first digit stands settles most cases without the power. -/
def isTooLarge (significand : Nat) (places : Int) : Bool :=
  let size : Int := (Nat.toDigits 10 significand).length + places
  if significand = 0 || size ≤ 308 then false
  else if size > 310 then true
  else
    let power := 10 ^ places.natAbs
    let nearest :=
      if places ≥ 0 then Binary64.ofRatio false (significand * power) 1
      else Binary64.ofRatio false significand power
    nearest.isNone

/-- Whether a word is a number with a fraction or an exponent, or one of the two special words. A
positive number must not be too large. -/
def isFloat (cs : List Char) : Bool :=
  let (negative, body) := unsigned cs
  let isExponentMark (c : Char) := c == 'e' || c == 'E'
  let mantissa := body.takeWhile fun c => !isExponentMark c
  let exponent := (body.dropWhile fun c => !isExponentMark c).drop 1
  let whole := mantissa.takeWhile (· != '.')
  let hasFraction := mantissa.contains '.'
  let fraction := (mantissa.dropWhile (· != '.')).drop 1
  let hasExponent := body.any isExponentMark
  let isWritten :=
    isDecimal whole && (!hasFraction || isDigits Char.isDigit fraction) &&
      (!hasExponent || isDigits Char.isDigit (unsigned exponent).2) &&
      (hasFraction || hasExponent)
  let power : Int :=
    let (down, ds) := unsigned exponent
    if down then -(valueOf 10 ds : Int) else valueOf 10 ds
  let places := power - (fraction.filter (· != '_')).length
  body == ['i', 'n', 'f'] || body == ['n', 'a', 'n'] ||
    (isWritten && (negative || !isTooLarge (valueOf 10 (whole ++ fraction)) places))

/-- The number that exactly `n` digits at the start of a text stand for, and the rest. -/
def fixedDigits (n : Nat) (cs : List Char) : Option (Nat × List Char) :=
  let ds := cs.take n
  if ds.length == n && ds.all Char.isDigit then some (valueOf 10 ds, cs.drop n) else none

/-- The text behind one character. -/
def behind (c : Char) : List Char → Option (List Char)
  | d :: rest => if d = c then some rest else none
  | [] => none

/-- The number of days of a month. -/
def daysIn (year month : Nat) : Nat :=
  if month = 2 then
    if year % 4 = 0 ∧ (year % 100 ≠ 0 ∨ year % 400 = 0) then 29 else 28
  else if month = 4 ∨ month = 6 ∨ month = 9 ∨ month = 11 then 30
  else 31

/-- The text behind a date. -/
def afterDate (cs : List Char) : Option (List Char) := do
  let (year, rest) ← fixedDigits 4 cs
  let rest ← behind '-' rest
  let (month, rest) ← fixedDigits 2 rest
  let rest ← behind '-' rest
  let (day, rest) ← fixedDigits 2 rest
  if 1 ≤ month ∧ month ≤ 12 ∧ 1 ≤ day ∧ day ≤ daysIn year month then some rest else none

/-- The text behind a time of day. -/
def afterTime (cs : List Char) : Option (List Char) := do
  let (hour, rest) ← fixedDigits 2 cs
  let rest ← behind ':' rest
  let (minute, rest) ← fixedDigits 2 rest
  let rest ← behind ':' rest
  let (second, rest) ← fixedDigits 2 rest
  if hour ≤ 23 ∧ minute ≤ 59 ∧ second ≤ 60 then
    match rest with
    | '.' :: fraction =>
      if (fraction.takeWhile Char.isDigit).isEmpty then none
      else some (fraction.dropWhile Char.isDigit)
    | rest => some rest
  else none

/-- Whether a text is an offset from universal time. -/
def isOffset (cs : List Char) : Bool :=
  match cs with
  | ['Z'] => true
  | ['z'] => true
  | sign :: rest =>
    let fields := do
      let (hour, rest) ← fixedDigits 2 rest
      let rest ← behind ':' rest
      let (minute, rest) ← fixedDigits 2 rest
      if hour ≤ 23 ∧ minute ≤ 59 then some rest else none
    (sign == '+' || sign == '-') && fields == some []
  | [] => false

/-- Whether a word is a date, a time of day, or both, with an offset or without. -/
def isTime (cs : List Char) : Bool :=
  match afterDate cs with
  | some [] => true
  | some (separator :: rest) =>
    (separator == 'T' || separator == 't' || separator == ' ') &&
      match afterTime rest with
      | some [] => true
      | some rest => isOffset rest
      | none => false
  | none => afterTime cs == some []

end Quire.Toml
