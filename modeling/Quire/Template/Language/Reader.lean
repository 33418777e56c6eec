import Quire.Number.Decimal
import Quire.Template.Language.Expression
import Quire.Text.Blank

/-!
# Reading templates

A template is text with tags in it. Each rule of the grammar is a function that gives what it read
and the rest of the text, or nothing; of several forms the first that fits is taken. Fuel bounds
the depth of the rules.
-/

namespace Quire.Template.Language

/-- Reads something from the start of a text. -/
abbrev Rule (α : Type) := List Char → Option (α × List Char)

namespace Rule

/-- The text without blanks at its start. -/
def skipBlanks (cs : List Char) : List Char :=
  cs.dropWhile fun c => c == ' ' || c == '\t' || c == '\r' || c == '\n'

/-- The text behind a given start. -/
def after? : List Char → List Char → Option (List Char)
  | [], cs => some cs
  | _ :: _, [] => none
  | w :: word, c :: cs => if c = w then after? word cs else none

/-- The text behind a given word. -/
def word (w : String) (cs : List Char) : Option (List Char) :=
  after? w.toList cs

/-- The text behind blanks and a given word. -/
def token (w : String) (cs : List Char) : Option (List Char) :=
  word w (skipBlanks cs)

/-- The text behind at least one blank. -/
def someBlanks (cs : List Char) : Option (List Char) :=
  let rest := skipBlanks cs
  if rest.length < cs.length then some rest else none

/-- The text behind a word and a blank. -/
def spacedWord (w : String) (cs : List Char) : Option (List Char) := do
  let rest ← word w cs
  match rest with
  | c :: rest => if c == ' ' || c == '\t' || c == '\r' || c == '\n' then some rest else none
  | [] => none

/-- Whether a character may start a name. -/
def startsName (c : Char) : Bool :=
  ('a' ≤ c && c ≤ 'z') || ('A' ≤ c && c ≤ 'Z') || c == '_'

/-- Whether a character may stand inside a name. -/
def insideName (c : Char) : Bool :=
  startsName c || c.isDigit

/-- A name. -/
def name : Rule String
  | c :: rest =>
    if startsName c then
      some (String.ofList (c :: rest.takeWhile insideName), rest.dropWhile insideName)
    else none
  | [] => none

/-- The digits of an integer, without zeros in front. -/
def digits : Rule (List Char)
  | '0' :: rest => some (['0'], rest)
  | cs =>
    let ds := cs.takeWhile Char.isDigit
    if ds.isEmpty then none else some (ds, cs.dropWhile Char.isDigit)

/-- A sign and the digits of an integer. -/
def signedDigits : Rule (Bool × List Char)
  | '-' :: rest => do
    let (ds, rest) ← digits rest
    some ((true, ds), rest)
  | cs => do
    let (ds, rest) ← digits cs
    some ((false, ds), rest)

/-- An integer of 64 bits. -/
def int : Rule Operand := fun cs => do
  let ((negative, ds), rest) ← signedDigits cs
  let n : Int := Decimal.value ds
  let i := if negative then -n else n
  if -2 ^ 63 ≤ i ∧ i < 2 ^ 63 then some (.int i, rest) else none

/-- A number with a fraction. -/
def float : Rule Operand := fun cs => do
  let ((negative, whole), rest) ← signedDigits cs
  let rest ← word "." rest
  let fraction := rest.takeWhile Char.isDigit
  if fraction.isEmpty then none
  else
    let x ← Binary64.ofRatio negative (Decimal.value (whole ++ fraction)) (10 ^ fraction.length)
    some (.float x, rest.dropWhile Char.isDigit)

/-- A text in quotes of one of three kinds. -/
def string : Rule String
  | q :: rest =>
    if q == '"' || q == '\'' || q == '\x60' then
      match rest.dropWhile (· != q) with
      | _ :: behind => some (String.ofList (rest.takeWhile (· != q)), behind)
      | [] => none
    else none
  | [] => none

/-- A truth value. -/
def bool : Rule Operand := fun cs =>
  let spelled (w : String) (value : Bool) := (word w cs).map fun rest => (Operand.bool value, rest)
  spelled "true" true <|> spelled "false" false <|> spelled "True" true <|> spelled "False" false

/-- What a rule consumed of a text. -/
def consumed (cs rest : List Char) : String :=
  String.ofList (cs.take (cs.length - rest.length))

mutual

/-- The text behind the steps of a path. -/
def afterSteps : Nat → List Char → List Char
  | 0, cs => cs
  | fuel + 1, cs =>
    match cs with
    | '.' :: rest =>
      if (rest.takeWhile insideName).isEmpty then cs
      else afterSteps fuel (rest.dropWhile insideName)
    | '[' :: rest =>
      match afterKey fuel rest with
      | some (']' :: rest) => afterSteps fuel rest
      | _ => cs
    | _ => cs

/-- The text behind what stands between brackets. -/
def afterKey : Nat → List Char → Option (List Char)
  | 0, _ => none
  | fuel + 1, cs =>
    match signedDigits cs with
    | some (_, rest) => some rest
    | none =>
      match string cs with
      | some (_, rest) => some rest
      | none => (name cs).map fun (_, rest) => afterSteps fuel rest

end

/-- A path: a name, then names after points and keys in brackets. -/
def path : Rule String := fun cs => do
  let (_, rest) ← name cs
  let rest := afterSteps cs.length rest
  some (consumed cs rest, rest)

/-- An operation on numbers. -/
def mathOp (cs : List Char) : Option (MathOp × List Char) :=
  match skipBlanks cs with
  | '+' :: rest => some (.add, rest)
  | '-' :: rest => some (.sub, rest)
  | '*' :: rest => some (.mul, rest)
  | '/' :: rest => some (.div, rest)
  | '%' :: rest => some (.mod, rest)
  | _ => none

/-- A comparison. -/
def comparisonOp (cs : List Char) : Option (LogicOp × List Char) :=
  match skipBlanks cs with
  | '=' :: '=' :: rest => some (.equal, rest)
  | '!' :: '=' :: rest => some (.unequal, rest)
  | '>' :: '=' :: rest => some (.greaterEqual, rest)
  | '>' :: rest => some (.greater, rest)
  | '<' :: '=' :: rest => some (.lessEqual, rest)
  | '<' :: rest => some (.less, rest)
  | _ => none

/-- A connective. -/
def connective (cs : List Char) : Option (LogicOp × List Char) :=
  let cs := skipBlanks cs
  match spacedWord "or" cs with
  | some rest => some (.or, rest)
  | none => (spacedWord "and" cs).map fun rest => (.and, rest)

/-- Groups operands and operations by how closely they bind, from left to right; `waiting` holds a
left side with a loose operation. -/
def group {ω α : Type} (isTight : ω → Bool) (make : ω → α → α → α) :
    Option (α × ω) → α → List (ω × α) → α
  | none, current, [] => current
  | some (left, op), current, [] => make op left current
  | waiting, current, (op, next) :: rest =>
    if isTight op then group isTight make waiting (make op current next) rest
    else
      let left := match waiting with
        | none => current
        | some (left, looseOp) => make looseOp left current
      group isTight make (some (left, op)) next rest

mutual

/-- The arguments of a call up to its closing parenthesis. Of several with one name the last one
counts. -/
def arguments : Nat → Rule (List (String × Expr))
  | 0, _ => none
  | fuel + 1, cs =>
    match token ")" cs with
    | some rest => some ([], rest)
    | none => do
      let (key, rest) ← name (skipBlanks cs)
      let rest ← token "=" rest
      let (value, rest) ← logicOrArray fuel (skipBlanks rest)
      match token "," rest with
      | some rest =>
        let (others, rest) ← arguments fuel rest
        some (if others.any (·.1 == key) then others else (key, value) :: others, rest)
      | none =>
        let rest ← token ")" rest
        some ([(key, value)], rest)

/-- A function with its arguments. -/
def call : Nat → Rule Call
  | 0, _ => none
  | fuel + 1, cs => do
    let (f, rest) ← name cs
    let rest ← token "(" rest
    let (args, rest) ← arguments fuel rest
    some (.mk f args, rest)

/-- A filter, with arguments or without. -/
def filter : Nat → Rule Call
  | 0, _ => none
  | fuel + 1, cs =>
    call fuel cs <|> (name cs).map fun (f, rest) => (.mk f [], rest)

/-- Filters. -/
def filters : Nat → List Char → List Call × List Char
  | 0, cs => ([], cs)
  | fuel + 1, cs =>
    match (token "|" cs).bind fun rest => filter fuel (skipBlanks rest) with
    | some (f, rest) =>
      let (fs, rest) := filters fuel rest
      (f :: fs, rest)
    | none => ([], cs)

/-- Expressions separated by commas, at least one. -/
def testArguments : Nat → Rule (List Expr)
  | 0, _ => none
  | fuel + 1, cs => do
    let (value, rest) ← logicOrArray fuel (skipBlanks cs)
    match (token "," rest).bind (testArguments fuel) with
    | some (others, rest) => some (value :: others, rest)
    | none => some ([value], rest)

/-- The name of a test with its arguments. -/
def testCall : Nat → Rule (String × List Expr)
  | 0, _ => none
  | fuel + 1, cs => do
    let (test, rest) ← name cs
    let withArguments := do
      let inside ← token "(" rest
      let (args, inside) ← testArguments fuel inside
      let inside ← token ")" inside
      some ((test, args), inside)
    withArguments <|> some ((test, []), rest)

/-- A test on a path. -/
def test : Nat → Rule Operand
  | 0, _ => none
  | fuel + 1, cs => do
    let (subject, rest) ← path cs
    let rest ← token "is" rest
    let negative := do
      let inside ← token "not" rest
      let ((f, args), inside) ← testCall fuel (skipBlanks inside)
      some (Operand.test subject true f args, inside)
    let positive := do
      let ((f, args), inside) ← testCall fuel (skipBlanks rest)
      some (Operand.test subject false f args, inside)
    negative <|> positive

/-- An operand of an operation on numbers. -/
def basicOperand : Nat → Rule Operand
  | 0, _ => none
  | fuel + 1, cs =>
    let nested := do
      let rest ← word "(" cs
      let (inner, rest) ← basicExpr fuel (skipBlanks rest)
      let rest ← token ")" rest
      some (inner, rest)
    nested <|> bool cs <|> test fuel cs <|>
      ((call fuel cs).map fun (c, rest) => (.call c, rest)) <|>
      ((path cs).map fun (p, rest) => (.path p, rest)) <|> float cs <|> int cs

/-- Further operands with the operations before them. -/
def basicRest : Nat → List Char → List (MathOp × Operand) × List Char
  | 0, cs => ([], cs)
  | fuel + 1, cs =>
    let next := do
      let (op, rest) ← mathOp cs
      let (operand, rest) ← basicOperand fuel (skipBlanks rest)
      some ((op, operand), rest)
    match next with
    | some (pair, rest) =>
      let (pairs, rest) := basicRest fuel rest
      (pair :: pairs, rest)
    | none => ([], cs)

/-- Operands and operations on numbers. -/
def basicExpr : Nat → Rule Operand
  | 0, _ => none
  | fuel + 1, cs => do
    let (first, rest) ← basicOperand fuel cs
    let (pairs, rest) := basicRest fuel rest
    let make (op : MathOp) (left right : Operand) := Operand.math op (.plain left) (.plain right)
    some (group MathOp.isTight make none first pairs, rest)

/-- Operands and operations on numbers, with filters. -/
def filteredBasic : Nat → Rule Expr
  | 0, _ => none
  | fuel + 1, cs => do
    let (operand, rest) ← basicExpr fuel cs
    let (fs, rest) := filters fuel rest
    some (.mk operand false fs, rest)

/-- A part of a concatenation. -/
def concatPart : Nat → Rule Operand
  | 0, _ => none
  | fuel + 1, cs =>
    ((call fuel cs).map fun (c, rest) => (.call c, rest)) <|> float cs <|> int cs <|>
      ((string cs).map fun (s, rest) => (.string s, rest)) <|>
      ((path cs).map fun (p, rest) => (.path p, rest))

/-- Further parts of a concatenation. -/
def concatRest : Nat → List Char → List Operand × List Char
  | 0, cs => ([], cs)
  | fuel + 1, cs =>
    match (token "~" cs).bind fun rest => concatPart fuel (skipBlanks rest) with
    | some (part, rest) =>
      let (parts, rest) := concatRest fuel rest
      (part :: parts, rest)
    | none => ([], cs)

/-- A concatenation of at least two parts. -/
def concat : Nat → Rule Operand
  | 0, _ => none
  | fuel + 1, cs => do
    let (first, rest) ← concatPart fuel cs
    match concatRest fuel rest with
    | ([], _) => none
    | (parts, rest) => some (.concatenation (first :: parts), rest)

/-- A text, with filters. -/
def filteredString : Nat → Rule Expr
  | 0, _ => none
  | fuel + 1, cs => do
    let (operand, rest) ←
      concat fuel cs <|> (string cs).map fun (s, rest) => (Operand.string s, rest)
    let (fs, rest) := filters fuel rest
    some (.mk operand false fs, rest)

/-- Further filtered operands with the operations before them. -/
def filteredRest : Nat → List Char → List (MathOp × Expr) × List Char
  | 0, cs => ([], cs)
  | fuel + 1, cs =>
    let next := do
      let (op, rest) ← mathOp cs
      let (operand, rest) ← filteredBasic fuel (skipBlanks rest)
      some ((op, operand), rest)
    match next with
    | some (pair, rest) =>
      let (pairs, rest) := filteredRest fuel rest
      (pair :: pairs, rest)
    | none => ([], cs)

/-- A side of a comparison. -/
def side : Nat → Rule Expr
  | 0, _ => none
  | fuel + 1, cs =>
    let numeric := do
      let (first, rest) ← filteredBasic fuel cs
      let (pairs, rest) := filteredRest fuel rest
      let make (op : MathOp) (left right : Expr) := Expr.plain (.math op left right)
      some (group MathOp.isTight make none first pairs, rest)
    filteredString fuel cs <|> numeric

/-- At most one comparison. -/
def comparison : Nat → Rule Expr
  | 0, _ => none
  | fuel + 1, cs => do
    let (left, rest) ← side fuel cs
    let compared := do
      let (op, inside) ← comparisonOp rest
      let (right, inside) ← side fuel (skipBlanks inside)
      some (Expr.plain (.logic op left right), inside)
    compared <|> some (left, rest)

/-- A membership. -/
def membership : Nat → Rule Expr
  | 0, _ => none
  | fuel + 1, cs => do
    let (item, rest) ← filteredString fuel cs <|> filteredBasic fuel cs
    let rest := skipBlanks rest
    let (negated, rest) := match spacedWord "not" rest with
      | some rest => (true, rest)
      | none => (false, rest)
    let rest ← token "in" rest
    let rest := skipBlanks rest
    let (container, rest) ←
      filteredString fuel rest <|> filteredArray fuel rest <|>
        (path rest).map fun (p, rest) => (Expr.plain (.path p), rest)
    some (.plain (.member item container negated), rest)

/-- An operand of a connective: a membership or a comparison, negated or not, or anything in
parentheses. Parentheses take a negation that stands first inside them away. -/
def logicOperand : Nat → Rule Expr
  | 0, _ => none
  | fuel + 1, cs =>
    let (negated, inside) := match spacedWord "not" cs with
      | some rest => (true, skipBlanks rest)
      | none => (false, cs)
    let nested := do
      let rest ← word "(" cs
      let (inner, rest) ← logic fuel (skipBlanks rest)
      let rest ← token ")" rest
      some (inner, rest)
    (membership fuel inside <|> comparison fuel inside <|> nested).map
      fun (.mk operand _ fs, rest) => (.mk operand negated fs, rest)

/-- Further operands with the connectives before them. -/
def logicRest : Nat → List Char → List (LogicOp × Expr) × List Char
  | 0, cs => ([], cs)
  | fuel + 1, cs =>
    let next := do
      let (op, rest) ← connective cs
      let (operand, rest) ← logicOperand fuel (skipBlanks rest)
      some ((op, operand), rest)
    match next with
    | some (pair, rest) =>
      let (pairs, rest) := logicRest fuel rest
      (pair :: pairs, rest)
    | none => ([], cs)

/-- Operands and connectives. -/
def logic : Nat → Rule Expr
  | 0, _ => none
  | fuel + 1, cs => do
    let (first, rest) ← logicOperand fuel cs
    let (pairs, rest) := logicRest fuel rest
    let make (op : LogicOp) (left right : Expr) := Expr.plain (.logic op left right)
    some (group (· == .and) make none first pairs, rest)

/-- The items of an array up to its closing bracket. -/
def items : Nat → Rule (List Expr)
  | 0, _ => none
  | fuel + 1, cs =>
    match token "]" cs with
    | some rest => some ([], rest)
    | none => do
      let (item, rest) ← logicOperand fuel (skipBlanks cs)
      match token "," rest with
      | some rest =>
        let (others, rest) ← items fuel rest
        some (item :: others, rest)
      | none =>
        let rest ← token "]" rest
        some ([item], rest)

/-- An array, with filters. -/
def filteredArray : Nat → Rule Expr
  | 0, _ => none
  | fuel + 1, cs => do
    let rest ← word "[" cs
    let (values, rest) ← match (token "," rest).bind (token "]") with
      | some rest => some ([], rest)
      | none => items fuel rest
    let (fs, rest) := filters fuel rest
    some (.mk (.array values) false fs, rest)

/-- An expression or an array. -/
def logicOrArray : Nat → Rule Expr
  | 0, _ => none
  | fuel + 1, cs => logic fuel cs <|> filteredArray fuel cs

end

/-- The start of a tag, and whether it takes the blanks before it away. -/
def tagStart : Rule Bool := fun cs => do
  let rest ← word "\x7b%" cs
  match rest with
  | '-' :: rest => some (true, rest)
  | rest => some (false, rest)

/-- The end of a tag, and whether it takes the blanks behind it away. -/
def tagEnd : Rule Bool := fun cs =>
  match skipBlanks cs with
  | '-' :: '%' :: '}' :: rest => some (true, rest)
  | '%' :: '}' :: rest => some (false, rest)
  | _ => none

/-- A tag that holds one word. -/
def wordTag (w : String) : Rule (Bool × Bool) := fun cs => do
  let (left, rest) ← tagStart cs
  let rest ← token w rest
  let (right, rest) ← tagEnd rest
  some ((left, right), rest)

/-- The start of a tag with a keyword. -/
def keywordTag (w : String) : Rule Bool := fun cs => do
  let (left, rest) ← tagStart cs
  let rest ← token w rest
  let rest ← someBlanks rest
  some (left, rest)

/-- A piece of a template before blanks are taken away: text, or a tag that may take the blanks
before and behind it away. -/
inductive Item where
  | text (text : List Char)
  | tag (left : Bool) (piece : Option Piece) (right : Bool)

/-- Whether an item takes the blanks before it away. -/
def Item.trimsLeft : Item → Bool
  | .text _ => false
  | .tag left _ _ => left

/-- Takes blanks away from the texts next to tags, and from the ends of a body whose own tags say
so. -/
def tidy : Bool → Bool → List Item → List Piece
  | _, _, [] => []
  | left, right, .text cs :: rest =>
    let trimsRight := match rest with
      | next :: _ => next.trimsLeft
      | [] => right
    let cs := if left then Text.trimStart cs else cs
    let cs := if trimsRight then Text.trimEnd cs else cs
    let others := tidy false right rest
    if cs.isEmpty then others else .text (String.ofList cs) :: others
  | _, right, .tag _ piece trimsNext :: rest =>
    let others := tidy trimsNext right rest
    match piece with
    | some piece => piece :: others
    | none => others

/-- The pieces as they are written. -/
def untidied : List Item → List Piece
  | [] => []
  | .text cs :: rest => .text (String.ofList cs) :: untidied rest
  | .tag _ (some piece) _ :: rest => piece :: untidied rest
  | .tag _ none _ :: rest => untidied rest

/-- The pieces of a body whose own tags say whether blanks are taken away at its ends. In `verbatim`
surroundings no tag takes blanks away. -/
def arranged (verbatim left right : Bool) (items : List Item) : List Piece :=
  if verbatim then untidied items else tidy left right items

/-- Text up to the start of a tag. -/
def plainText : List Char → List Char × List Char
  | [] => ([], [])
  | c :: rest =>
    let startsTag := c == '{' && match rest with
      | d :: _ => d == '{' || d == '%' || d == '#'
      | [] => false
    if startsTag then ([], c :: rest)
    else
      let (text, rest) := plainText rest
      (c :: text, rest)

/-- The end of a comment, and whether it takes the blanks behind it away. -/
def commentEnd : Rule Bool
  | '-' :: '#' :: '}' :: rest => some (true, rest)
  | '#' :: '}' :: rest => some (false, rest)
  | _ => none

/-- The end of a comment behind its text. -/
def commentRest : Rule Bool
  | [] => none
  | c :: rest =>
    match commentEnd (c :: rest) with
    | some found => some found
    | none => commentRest rest

/-- Raw text up to the tag that ends it. -/
def rawBody : List Char → Option ((List Char × Bool × Bool) × List Char)
  | [] => none
  | c :: rest =>
    match wordTag "endraw" (c :: rest) with
    | some ((left, right), rest) => some (([], left, right), rest)
    | none => do
      let ((text, left, right), rest) ← rawBody rest
      some ((c :: text, left, right), rest)

/-- A comment, which is not empty. -/
def comment : Rule Item := fun cs => do
  let rest ← word "\x7b#" cs
  let (left, rest) := match rest with
    | '-' :: rest => (true, rest)
    | rest => (false, rest)
  if (commentEnd rest).isSome then none
  else
    let (right, rest) ← commentRest rest
    some (.tag left none right, rest)

/-- The text behind the comments at its start. -/
def skipComments : Nat → List Char → List Char
  | 0, cs => cs
  | fuel + 1, cs =>
    match comment cs with
    | some (_, rest) => skipComments fuel rest
    | none => cs

/-- A tag that prints an expression. -/
def interpolation (fuel : Nat) : Rule Item := fun cs => do
  let rest ← word "\x7b\x7b" cs
  let (left, rest) := match rest with
    | '-' :: rest => (true, rest)
    | rest => (false, rest)
  let (expr, rest) ← logicOrArray fuel (skipBlanks rest)
  match skipBlanks rest with
  | '-' :: '}' :: '}' :: rest => some (.tag left (some (.print expr)) true, rest)
  | '}' :: '}' :: rest => some (.tag left (some (.print expr)) false, rest)
  | _ => none

/-- Raw text between its tags. -/
def raw (verbatim : Bool) : Rule Item := fun cs => do
  let ((left, trimsStart), rest) ← wordTag "raw" cs
  let ((text, trimsEnd, right), rest) ← rawBody rest
  let text := if trimsStart && !verbatim then Text.trimStart text else text
  let text := if trimsEnd && !verbatim then Text.trimEnd text else text
  some (.tag left (some (.text (String.ofList text))) right, rest)

/-- Texts separated by commas up to a closing bracket. -/
def strings : Nat → Rule (List String)
  | 0, _ => none
  | fuel + 1, cs =>
    match token "]" cs with
    | some rest => some ([], rest)
    | none => do
      let (s, rest) ← string (skipBlanks cs)
      match token "," rest with
      | some rest =>
        let (others, rest) ← strings fuel rest
        some (s :: others, rest)
      | none =>
        let rest ← token "]" rest
        some ([s], rest)

/-- The inclusion of other templates. -/
def inclusion (fuel : Nat) : Rule Item := fun cs => do
  let (left, rest) ← keywordTag "include" cs
  let names : Option (List String × List Char) :=
    ((string rest).map fun (s, rest) => ([s], rest)) <|> (word "[" rest).bind (strings fuel)
  let (named, rest) ← names
  let (ignore, rest) :=
    match (token "ignore" rest).bind fun inside => (someBlanks inside).bind (word "missing") with
    | some rest => (true, rest)
    | none => (false, rest)
  let (right, rest) ← tagEnd rest
  some (.tag left (some (.included named ignore)) right, rest)

/-- An assignment. -/
def assignment (fuel : Nat) : Rule Item := fun cs => do
  let (left, rest) ← keywordTag "set" cs
  let (key, rest) ← name rest
  let rest ← token "=" rest
  let (value, rest) ← logicOrArray fuel (skipBlanks rest)
  let (right, rest) ← tagEnd rest
  some (.tag left (some (.assign key value)) right, rest)

/-- The start of a loop. -/
def loopStart (fuel : Nat) : Rule ((Bool × Bool) × Option String × String × Expr) := fun cs => do
  let (left, rest) ← keywordTag "for" cs
  let (first, rest) ← name rest
  let second := (word "," rest).bind fun inside => name (skipBlanks inside)
  let (key, value, rest) := match second with
    | some (second, rest) => (some first, second, rest)
    | none => (none, first, rest)
  let rest ← someBlanks rest
  let rest ← word "in" rest
  let rest ← someBlanks rest
  let (container, rest) ← filteredBasic fuel rest <|> filteredArray fuel rest
  let (right, rest) ← tagEnd rest
  some (((left, right), key, value, container), rest)

/-- The start of a branch. -/
def branchStart (keyword : String) (fuel : Nat) : Rule ((Bool × Bool) × Expr) := fun cs => do
  let (left, rest) ← keywordTag keyword cs
  let (condition, rest) ← logic fuel rest
  let (right, rest) ← tagEnd rest
  some (((left, right), condition), rest)

/-- The start of a section whose output is filtered. -/
def sectionStart (fuel : Nat) : Rule ((Bool × Bool) × Call) := fun cs => do
  let (left, rest) ← keywordTag "filter" cs
  let (f, rest) ← filter fuel rest
  let (right, rest) ← tagEnd rest
  some (((left, right), f), rest)

mutual

/-- The items up to the first tag that does not start one, or the end of the text. -/
def contents (verbatim : Bool) : Nat → List Char → List Item × List Char
  | 0, cs => ([], cs)
  | fuel + 1, cs =>
    match plainText cs with
    | ([], []) => ([], [])
    | (c :: text, rest) =>
      let (others, rest) := contents verbatim fuel rest
      (.text (c :: text) :: others, rest)
    | ([], cs) =>
      match interpolation fuel cs <|> comment cs <|> assignment fuel cs <|> inclusion fuel cs <|>
          raw verbatim cs <|> loop verbatim fuel cs <|> branch verbatim fuel cs <|>
          filteredSection verbatim fuel cs with
      | some (item, rest) =>
        let (others, rest) := contents verbatim fuel rest
        (item :: others, rest)
      | none => ([], cs)

/-- The body behind the last `else` of a loop, or the one `found` before; no tag takes blanks away
there. -/
def loopOtherwise : Nat → List Piece → List Char → List Piece × List Char
  | 0, found, cs => (found, cs)
  | fuel + 1, found, cs =>
    match wordTag "else" cs with
    | none => (found, cs)
    | some (_, rest) =>
      let (body, rest) := contents true fuel rest
      loopOtherwise fuel (untidied body) rest

/-- A loop. -/
def loop (verbatim : Bool) : Nat → Rule Item
  | 0, _ => none
  | fuel + 1, cs => do
    let (((left, trimsStart), key, value, container), rest) ← loopStart fuel cs
    let (body, rest) := contents verbatim fuel rest
    let (otherwise, rest) := loopOtherwise fuel [] rest
    let ((trimsEnd, right), rest) ← wordTag "endfor" rest
    let body := arranged verbatim trimsStart trimsEnd body
    some (.tag left (some (.loop key value container body otherwise)) right, rest)

/-- What follows the body of a branch: another condition, the other case, or the end. Gives whether
the body's blanks are taken away at its end, the pieces of the other case, and whether the blanks
behind the whole are taken away. -/
def branchRest (verbatim : Bool) : Nat → Rule (Bool × List Piece × Bool)
  | 0, _ => none
  | fuel + 1, cs =>
    match branchStart "elif" fuel cs with
    | some (((left, trimsStart), condition), rest) => do
      let (body, rest) := contents verbatim fuel rest
      let ((trimsEnd, no, right), rest) ← branchRest verbatim fuel rest
      let body := arranged verbatim trimsStart trimsEnd body
      some ((left, [.branch condition body no], right), rest)
    | none =>
      match wordTag "else" cs with
      | some ((left, trimsStart), rest) => do
        let (body, rest) := contents verbatim fuel rest
        let ((trimsEnd, right), rest) ← wordTag "endif" rest
        some ((left, arranged verbatim trimsStart trimsEnd body, right), rest)
      | none => do
        let ((left, right), rest) ← wordTag "endif" cs
        some ((left, [], right), rest)

/-- A branch. -/
def branch (verbatim : Bool) : Nat → Rule Item
  | 0, _ => none
  | fuel + 1, cs => do
    let (((left, trimsStart), condition), rest) ← branchStart "if" fuel cs
    let (body, rest) := contents verbatim fuel rest
    let ((trimsEnd, no, right), rest) ← branchRest verbatim fuel rest
    let body := arranged verbatim trimsStart trimsEnd body
    some (.tag left (some (.branch condition body no)) right, rest)

/-- A section whose output is filtered. -/
def filteredSection (verbatim : Bool) : Nat → Rule Item
  | 0, _ => none
  | fuel + 1, cs => do
    let (((left, trimsStart), f), rest) ← sectionStart fuel cs
    let (body, rest) := contents verbatim fuel rest
    let ((trimsEnd, right), rest) ← wordTag "endfilter" rest
    let body := arranged verbatim trimsStart trimsEnd body
    some (.tag left (some (.filtered f body)) right, rest)

end

end Rule

/-- The pieces of a template. Comments at its very start leave the blanks behind them alone. -/
def parse (source : String) : Option (List Piece) :=
  let cs := Rule.skipComments source.length source.toList
  match Rule.contents false (16 * cs.length + 64) cs with
  | (items, []) => some (Rule.tidy false false items)
  | _ => none

end Quire.Template.Language
