import Quire.Json.Basic
import Quire.Text.Lines

/-!
# Values in templates

How templates print, test, compare and look into JSON values.
-/

namespace Quire.Template.Language

mutual

/-- The text of a value. -/
def textOf : Json → String
  | .null => ""
  | .bool true => "true"
  | .bool false => "false"
  | .int i => String.ofList (Json.printInt i)
  | .double x => DecimalLayout.plain.write x
  | .string s => s
  | .array items => "[" ++ Text.join ", " (textsOf items) ++ "]"
  | .object _ => "[object]"

/-- The texts of values. -/
def textsOf : List Json → List String
  | [] => []
  | item :: rest => textOf item :: textsOf rest

end

/-- Whether a value counts as true. -/
def isTruthy : Json → Bool
  | .null => false
  | .bool b => b
  | .int i => i != 0
  | .double x => !x.isZero
  | .string s => s != ""
  | .array items => !items.isEmpty
  | .object members => !members.isEmpty

mutual

/-- Whether two values are the same, where an integer is never the same as another number. -/
def same : Json → Json → Bool
  | .null, .null => true
  | .bool a, .bool b => a == b
  | .int a, .int b => a == b
  | .double a, .double b => a.same b
  | .string a, .string b => a == b
  | .array a, .array b => sameItems a b
  | .object a, .object b => sameMembers a b
  | _, _ => false

/-- Whether two lists of values are the same. -/
def sameItems : List Json → List Json → Bool
  | [], [] => true
  | a :: as, b :: bs => same a b && sameItems as bs
  | _, _ => false

/-- Whether two lists of members are the same. -/
def sameMembers : List (String × Json) → List (String × Json) → Bool
  | [], [] => true
  | a :: as, b :: bs => sameMember a b && sameMembers as bs
  | _, _ => false

/-- Whether two members are the same. -/
def sameMember : String × Json → String × Json → Bool
  | (a, v), (b, w) => a == b && same v w

end

/-- The index that a step of a path spells: digits without zeros in front. -/
def indexOf? (step : String) : Option Nat :=
  let ds := step.toList
  if ds.isEmpty || !ds.all Char.isDigit || (ds.head? == some '0' && ds.length > 1) then none
  else some (Decimal.value ds)

/-- What a list of steps leads to inside a value. -/
def follow (value : Json) : List String → Option Json
  | [] => some value
  | step :: steps =>
    match value with
    | .object members =>
      match Entries.find? members step with
      | some inner => follow inner steps
      | none => none
    | .array items =>
      match (indexOf? step).bind fun i => items[i]? with
      | some inner => follow inner steps
      | none => none
    | _ => none

/-- A number in a template. -/
inductive Number where
  | int (value : Int)
  | double (value : Binary64)

namespace Number

/-- The number of a value. -/
def ofJson? : Json → Option Number
  | .int i => some (.int i)
  | .double x => some (.double x)
  | _ => none

/-- The value of a number. -/
def toJson : Number → Json
  | int i => .int i
  | double x => .double x

/-- The nearest binary64 number. -/
def toBinary64 : Number → Binary64
  | int i => (Binary64.ofInt i).getD (Binary64.zero false)
  | double x => x

end Number

/-- A character with the escape that autoescaping gives it. -/
def escapeChar (c : Char) : List Char :=
  if c = '&' then ['&', 'a', 'm', 'p', ';']
  else if c = '<' then ['&', 'l', 't', ';']
  else if c = '>' then ['&', 'g', 't', ';']
  else if c = '"' then ['&', 'q', 'u', 'o', 't', ';']
  else if c = '\'' then ['&', '#', 'x', '2', '7', ';']
  else if c = '/' then ['&', '#', 'x', '2', 'F', ';']
  else [c]

/-- A text with six characters escaped. -/
def escape (s : String) : String :=
  String.ofList (s.toList.flatMap escapeChar)

end Quire.Template.Language
