import Quire.Text.Quoted.Table

/-!
# Quoted texts

A text between double quotes in which every character can be seen: quotes and backslashes are
escaped, and a character without a face of its own is spelled by its number.
-/

namespace Quire.Text

namespace Quoted

/-- Whether a character is spelled by its number. -/
def isFaceless (c : Char) : Bool :=
  if c.toNat < 127 then c.toNat < 32
  else facelessRanges.any fun (low, high) => low ≤ c.toNat && c.toNat ≤ high

/-- One character inside the quotes. -/
def encodeChar (c : Char) : List Char :=
  if c = '\x00' then ['\\', '0']
  else if c = '\t' then ['\\', 't']
  else if c = '\r' then ['\\', 'r']
  else if c = '\n' then ['\\', 'n']
  else if c = '"' then ['\\', '"']
  else if c = '\\' then ['\\', '\\']
  else if isFaceless c then ['\\', 'u', '{'] ++ Nat.toDigits 16 c.toNat ++ ['}']
  else [c]

end Quoted

/-- The text in quotes. -/
def quoted (s : String) : String :=
  String.ofList ('"' :: s.toList.flatMap Quoted.encodeChar ++ ['"'])

end Quire.Text
