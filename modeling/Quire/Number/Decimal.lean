/-!
# Decimal digits

Naturals as texts of decimal digits, and the naturals that digits stand for. Reading the digits of
a natural gives it back.
-/

-- powers are those of the core library, also where there are others
attribute [instance (20000), default_instance 20000] instPowNat

namespace Quire.Decimal

/-- The decimal text of a natural, without zeros in front. -/
def text (n : Nat) : String :=
  String.ofList (Nat.toDigits 10 n)

/-- The natural that decimal digits stand for. -/
def value (ds : List Char) : Nat :=
  Nat.ofDigitChars 10 ds 0

/-- The natural of 64 bits that a text of digits stands for; a plus sign may stand in front. -/
def parse? (s : String) : Option Nat :=
  let ds := match s.toList with
    | '+' :: ds => ds
    | ds => ds
  if ds.isEmpty || !ds.all Char.isDigit then none
  else
    let n := value ds
    if n < 2 ^ 64 then some n else none

/-- Reading the digits of a natural gives it back. -/
@[simp]
theorem value_toDigits (n : Nat) : value (Nat.toDigits 10 n) = n :=
  Nat.ofDigitChars_ten_toDigits

/-- The text of a natural holds nothing but digits. -/
theorem isDigit_of_mem_text {n : Nat} {c : Char} (h : c ∈ (text n).toList) : c.isDigit = true := by
  rw [text, String.toList_ofList] at h
  exact Nat.isDigit_of_mem_toDigits (by decide) (by decide) h

end Quire.Decimal
