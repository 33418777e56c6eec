import Quire.Number.Binary64

/-!
# Template expressions

The abstract form of templates: expressions with filters, and the pieces that a template consists
of. A path into a value is kept as it is written.
-/

namespace Quire.Template.Language

/-- An operation on numbers. -/
inductive MathOp where
  | add
  | sub
  | mul
  | div
  | mod
deriving DecidableEq

/-- Whether an operation binds more closely than addition. -/
def MathOp.isTight : MathOp → Bool
  | add | sub => false
  | mul | div | mod => true

/-- An operation with a truth value. -/
inductive LogicOp where
  | or
  | and
  | equal
  | unequal
  | less
  | lessEqual
  | greater
  | greaterEqual
deriving DecidableEq

mutual

/-- An operand with filters behind it, negated or not. -/
inductive Expr where
  | mk (operand : Operand) (negated : Bool) (filters : List Call)

/-- What an expression starts from. -/
inductive Operand where
  | string (value : String)
  | int (value : Int)
  | float (value : Binary64)
  | bool (value : Bool)
  | path (path : String)
  | math (op : MathOp) (left right : Expr)
  | logic (op : LogicOp) (left right : Expr)
  /-- A test on what a path leads to. -/
  | test (path : String) (negated : Bool) (name : String) (arguments : List Expr)
  | call (call : Call)
  | array (items : List Expr)
  | concat (parts : List Operand)
  | member (item container : Expr) (negated : Bool)

/-- A filter or function with named arguments. -/
inductive Call where
  | mk (name : String) (arguments : List (String × Expr))

end

/-- The text that an operand is written as. -/
def Operand.text? : Operand → Option String
  | .string s => some s
  | _ => none

/-- The concatenation of operands, which is a text if each of them is written as one. -/
def Operand.concatenation (parts : List Operand) : Operand :=
  match parts.mapM Operand.text? with
  | some texts => .string (String.join texts)
  | none => .concat parts

/-- An expression without filters. -/
def Expr.plain (operand : Operand) : Expr :=
  .mk operand false []

/-- A piece of a template. -/
inductive Piece where
  | text (text : String)
  | print (expr : Expr)
  | assign (name : String) (value : Expr)
  /-- The inclusion of the first template there is of some names. -/
  | included (names : List String) (ignoreMissing : Bool)
  | loop (key : Option String) (value : String) (container : Expr) (body otherwise : List Piece)
  | filtered (filter : Call) (body : List Piece)
  | branch (condition : Expr) (yes no : List Piece)

end Quire.Template.Language
