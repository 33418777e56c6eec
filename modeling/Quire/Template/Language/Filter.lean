import Quire.Template.Language.Expression
import Quire.Template.Language.Value
import Quire.Text.Blank
import Quire.Text.Case
import Quire.Text.Replace

/-!
# Filters and arithmetic

The operations of the template language on values. An operation that does not apply to its operands
has no result.
-/

namespace Quire.Template.Language

/-- The names of the filters that change a value. -/
def filterNames : List String :=
  ["upper", "lower", "trim", "escape", "length", "replace", "first", "last", "join"]

/-- A text that serves as a separator: a backslash with `n` or `t` is a line end or a tab. -/
def separator (s : String) : String :=
  Text.replace "\\t" "\t" (Text.replace "\\n" "\n" s)

/-- The value of a filter with arguments. -/
def applyFilter (name : String) (arguments : List (String × Json)) (value : Json) : Option Json :=
  let argument (key : String) := arguments.lookup key
  match name, value with
  | "upper", .string s => some (.string (Text.upper s))
  | "lower", .string s => some (.string (Text.lower s))
  | "trim", .string s => some (.string (Text.trim s))
  | "escape", .string s => some (.string (escape s))
  | "length", .string s => some (.int s.length)
  | "length", .array items => some (.int items.length)
  | "length", .object members => some (.int members.length)
  | "replace", .string s =>
    match argument "from", argument "to" with
    | some (.string pattern), some (.string replacement) =>
      some (.string (Text.replace pattern replacement s))
    | _, _ => none
  | "first", .array items => some (items.head?.getD (.string ""))
  | "last", .array items => some (items.getLast?.getD (.string ""))
  | "join", .array items =>
    match argument "sep" with
    | none => some (.string (Text.join "" (textsOf items)))
    | some (.string s) => some (.string (Text.join (separator s) (textsOf items)))
    | some _ => none
  | _, _ => none

/-- An integer that fits 64 bits, with the sign or without it. -/
def fitInteger (signed : Bool) (i : Int) : Option Int :=
  if signed then if -2 ^ 63 ≤ i ∧ i < 2 ^ 63 then some i else none
  else if 0 ≤ i ∧ i < 2 ^ 64 then some i else none

/-- Whether an integer fits 64 bits with a sign. -/
def isSigned (i : Int) : Bool :=
  -2 ^ 63 ≤ i && i < 2 ^ 63

/-- The outcome of arithmetic. -/
inductive MathResult where
  | number (value : Number)
  | notANumber
  | refused

/-- Applies an operation to integers of one signedness, and to binary64 numbers otherwise. -/
def arithmetic (onInts : Int → Int → Option Int)
    (onDoubles : Binary64 → Binary64 → Option Binary64) (left right : Number) : MathResult :=
  let doubles (x y : Binary64) : MathResult :=
    match onDoubles x y with
    | some z => .number (.double z)
    | none => .notANumber
  let ints (signed : Bool) (a b : Int) : MathResult :=
    match (onInts a b).bind (fitInteger signed) with
    | some c => .number (.int c)
    | none => .refused
  match left, right with
  | .int a, .int b =>
    if isSigned a && isSigned b then ints true a b
    else if a ≥ 0 && b ≥ 0 then ints false a b
    else doubles left.toBinary64 right.toBinary64
  | _, _ => doubles left.toBinary64 right.toBinary64

/-- An integer brought into the range of 64 bits with a sign. -/
def clampSigned (i : Int) : Int :=
  max (-2 ^ 63) (min i (2 ^ 63 - 1))

/-- The value of an operation on numbers. A quotient is an integer where it is a whole number. -/
def applyMath (op : MathOp) (left right : Number) : MathResult :=
  match op with
  | .add => arithmetic (fun a b => some (a + b)) Binary64.add left right
  | .sub => arithmetic (fun a b => some (a - b)) Binary64.sub left right
  | .mul => arithmetic (fun a b => some (a * b)) Binary64.mul left right
  | .mod =>
    arithmetic (fun a b => if b = 0 then none else some (a.tmod b)) Binary64.rem left right
  | .div =>
    match left.toBinary64.div right.toBinary64 with
    | none => .notANumber
    | some q =>
      match q.toInt? with
      | some i => .number (.int (clampSigned i))
      | none => .number (.double q)

/-- Whether a comparison of two numbers holds. -/
def applyOrder (op : LogicOp) (left right : Number) : Bool :=
  let x := left.toBinary64
  let y := right.toBinary64
  match op with
  | .less => x.lt y
  | .lessEqual => !y.lt x
  | .greater => y.lt x
  | .greaterEqual => !x.lt y
  | _ => false

/-- Whether a text occurs in another. -/
def occursIn (part : List Char) : List Char → Bool
  | [] => part.isEmpty
  | c :: rest => part.isPrefixOf (c :: rest) || occursIn part rest

/-- Whether an item is in a container, if the question makes sense. -/
def contains? (item container : Json) : Option Bool :=
  match container, item with
  | .array items, _ => some (items.any (same · item))
  | .string s, .string part => some (occursIn part.toList s.toList)
  | .object members, .string name => some (Entries.find? members name).isSome
  | _, _ => none

end Quire.Template.Language
