import Quire.Dictionary
import Quire.Number.Shortest

/-!
# JSON values

The values of JSON, with integers told apart from other numbers, and how they are printed without
blanks. The members of an object that is read are kept in the order of their names; a value that is
made in another order, to be printed so, is brought into that order by `sorted`.
-/

namespace Quire

/-- A JSON value. -/
inductive Json where
  | null
  | bool (value : Bool)
  | int (value : Int)
  | double (value : Binary64)
  | string (value : String)
  | array (items : List Json)
  | object (members : List (String × Json))

namespace Json

/-- A number is written without exponent from `0.00001` to below `10 ^ 16`, and with a point; of two
equally near decimals the one that ends in an even digit is taken. -/
def numberLayout : DecimalLayout :=
  ⟨.even, fun exponent => -5 ≤ exponent && exponent < 16, 1⟩

/-- The decimal text of an integer. -/
def printInt (i : Int) : List Char :=
  if i < 0 then '-' :: Nat.toDigits 10 i.natAbs else Nat.toDigits 10 i.natAbs

/-- One character inside a JSON string: only quotes, backslashes and controls are escaped. -/
def escapeChar (c : Char) : List Char :=
  if c = '"' then ['\\', '"']
  else if c = '\\' then ['\\', '\\']
  else if c = '\x08' then ['\\', 'b']
  else if c = '\x0c' then ['\\', 'f']
  else if c = '\n' then ['\\', 'n']
  else if c = '\r' then ['\\', 'r']
  else if c = '\t' then ['\\', 't']
  else if c.toNat < 0x20 then
    ['\\', 'u', '0', '0', Nat.digitChar (c.toNat / 16), Nat.digitChar (c.toNat % 16)]
  else [c]

/-- A text between quotes. -/
def printString (s : String) : List Char :=
  '"' :: s.toList.flatMap escapeChar ++ ['"']

mutual

/-- The characters of a printed value. -/
def print : Json → List Char
  | .null => ['n', 'u', 'l', 'l']
  | .bool true => ['t', 'r', 'u', 'e']
  | .bool false => ['f', 'a', 'l', 's', 'e']
  | .int i => printInt i
  | .double x => (numberLayout.write x).toList
  | .string s => printString s
  | .array items => '[' :: printItems items ++ [']']
  | .object members => '{' :: printMembers members ++ ['}']

/-- The items of an array, with commas between them. -/
def printItems : List Json → List Char
  | [] => []
  | [item] => print item
  | item :: next :: rest => print item ++ ',' :: printItems (next :: rest)

/-- The members of an object, with commas between them. -/
def printMembers : List (String × Json) → List Char
  | [] => []
  | [member] => printMember member
  | member :: next :: rest => printMember member ++ ',' :: printMembers (next :: rest)

/-- A member's name and value. -/
def printMember : String × Json → List Char
  | (name, value) => printString name ++ ':' :: print value

end

/-- The printed value. -/
def compact (value : Json) : String :=
  String.ofList value.print

/-- The object of a list of members, where a later value under a name replaces an earlier one. -/
def ofMembers (members : List (String × Json)) : Json :=
  .object (Entries.ofList members)

mutual

/-- The value with the members of each object in the order of their names. -/
def sorted : Json → Json
  | .array items => .array (sortedItems items)
  | .object members => .ofMembers (sortedMembers members)
  | value => value

/-- The values with the members of each object in order. -/
def sortedItems : List Json → List Json
  | [] => []
  | item :: rest => sorted item :: sortedItems rest

/-- The members with the members of each object in order. -/
def sortedMembers : List (String × Json) → List (String × Json)
  | [] => []
  | member :: rest => sortedMember member :: sortedMembers rest

/-- The member with the members of each object in order. -/
def sortedMember : String × Json → String × Json
  | (name, value) => (name, sorted value)

end

/-- What is found under a name in an object whose names differ is found there in order as well. -/
theorem find?_sortedMembers {members : List (String × Json)}
    (distinct : (members.map (·.1)).Nodup) (name : String) :
    (Entries.ofList (sortedMembers members)).find? name =
      (Entries.find? members name).map sorted := by
  have names (members : List (String × Json)) :
      (sortedMembers members).map (·.1) = members.map (·.1) := by
    induction members with
    | nil => rfl
    | cons member rest ih => rw [sortedMembers, List.map_cons, ih, List.map_cons, sortedMember]
  have values (members : List (String × Json)) :
      Entries.find? (sortedMembers members) name = (Entries.find? members name).map sorted := by
    induction members with
    | nil => rfl
    | cons member rest ih =>
      rw [sortedMembers, sortedMember, Entries.find?_cons, Entries.find?_cons, ih]
      split <;> rfl
  rw [Entries.find?_ofList (by rw [names]; exact distinct), values]

end Json

end Quire
