import Quire.Template.Language.Filter
import Quire.Template.Language.ValuePath

/-!
# Rendering templates

What expressions mean where variables have values, and the output of a template. An expression has
a value, a truth value and a number, which differ where a variable is missing: a condition takes it
for false, a value does not.
-/

namespace Quire.Template.Language

/-- Why a template cannot render a value. -/
inductive RenderError where
  /-- A variable that the value does not have, with the engine's text and with what was being done
  when it was looked for, the outermost action first. -/
  | missingVariable (actions : List String) (text : String)
  | failed

namespace RenderError

/-- The same error inside a further action. -/
def within (action : String) : RenderError → RenderError
  | missingVariable actions text => missingVariable (action :: actions) text
  | failed => failed

/-- What is left of an error where only its outermost text is handed on: it names a variable only if
that was not looked for inside an action. -/
def outermost : RenderError → RenderError
  | missingVariable [] text => missingVariable [] text
  | _ => failed

/-- The wording of an error that names a variable; of the others no words are kept. -/
def message : RenderError → String
  | missingVariable actions text => Text.join ": " (actions ++ [text])
  | failed => ""

end RenderError

/-- Where a loop stands. -/
structure LoopState where
  /-- The name of the key and its value. -/
  key : Option (String × String)
  name : String
  value : Json
  index : Nat
  count : Nat

/-- Variables of a loop or of the whole template. -/
structure Frame where
  assigned : Entries Json := []
  loop : Option LoopState := none

/-- Where expressions are evaluated: the variables, innermost first, and the value that is
rendered. -/
structure Env where
  template : String
  escaping : Bool
  inner : Frame
  outer : List Frame
  context : Entries Json

/-- Something that depends on variables. -/
abbrev Eval (α : Type) := Env → Except RenderError α

/-- What a loop gives for a name and what stands behind it. Names that start with `loop` are its
own. -/
def LoopState.find? (state : LoopState) (head tail : String) : Option Json :=
  if head = "loop" then
    match tail with
    | "index" => some (.int (state.index + 1))
    | "index0" => some (.int state.index)
    | "first" => some (.bool (state.index == 0))
    | "last" => some (.bool (state.index + 1 == state.count))
    | _ => none
  else
    match state.key with
    | some (name, key) =>
      if head = name ∧ tail = "" then some (.string key)
      else if head = state.name then follow state.value (ValuePath.steps tail) else none
    | none => if head = state.name then follow state.value (ValuePath.steps tail) else none

/-- What a name and what stands behind it lead to in a frame. -/
def Frame.find? (frame : Frame) (head tail : String) : Option Json :=
  ((frame.assigned.find? head).bind (follow · (ValuePath.steps tail))).or
    (frame.loop.bind (·.find? head tail))

/-- What a path without brackets leads to. -/
def Env.find? (env : Env) (path : String) : Option Json :=
  let head := ValuePath.head path
  let tail := ValuePath.tail path
  ((env.inner :: env.outer).findSome? (·.find? head tail)).or
    ((env.context.find? head).bind (follow · (ValuePath.steps tail)))

/-- The same variables without escaping. -/
def Env.unescaped (env : Env) : Env :=
  { env with escaping := false }

/-- The text for a variable that is missing. -/
def Env.missing (env : Env) (path : String) : String :=
  "Variable `" ++ path ++ "` not found in context while rendering '" ++ env.template ++ "'"

/-- A value that may fail to exist. -/
def orFail {α : Type} : Option α → Except RenderError α
  | some value => .ok value
  | none => .error .failed

/-- A value as a step of a path: a text in quotes, or a number. -/
def stepText? : Json → Option String
  | .string s => some ("\"" ++ s ++ "\"")
  | .int i => some (Json.int i).compact
  | .double x => some (Json.double x).compact
  | _ => none

/-- What a path leads to. The values of its inner paths are found first. -/
def evalPath (path : String) (env : Env) : Except RenderError Json :=
  if ValuePath.hasBrackets path then
    match h : ValuePath.inner? path with
    | none => .error .failed
    | some names => do
      let values ← names.attach.mapM fun ⟨name, hm⟩ =>
        have := ValuePath.length_lt_of_inner? h hm
        match evalPath name env with
        | .ok value => do
          let text ← orFail (stepText? value)
          pure (name, text)
        | .error (.missingVariable _ text) =>
          .error (.missingVariable []
            ("Variable " ++ path ++ " can not be evaluated because: " ++ text))
        | .error .failed => .error .failed
      let evaluated := ValuePath.pointed
        (values.foldl (fun path (name, text) => ValuePath.substitute path name text) path)
      match env.find? evaluated with
      | some value => .ok value
      | none =>
        .error (.missingVariable [] (env.missing path ++ ": the evaluated version was `" ++
          evaluated ++ "`. Maybe the index is out of bounds?"))
  else
    match env.find? path with
    | some value => .ok value
    | none => .error (.missingVariable [] (env.missing path))
termination_by path.length

/-- What an expression means. -/
structure Meaning where
  value : Eval Json
  truth : Eval Bool
  /-- The number, or nothing where the arithmetic has no result. -/
  number : Eval (Option Number)

/-- A call with the meanings of its arguments. -/
structure CallMeaning where
  name : String
  arguments : List (String × Eval Json)

/-- What an operand means: its value and whether it is escaped when printed, its truth value and
whether a negation applies to it, its number, and its text as part of a concatenation. -/
structure OperandMeaning where
  value : Eval (Json × Bool)
  truth : Eval (Bool × Bool)
  number : Eval (Option Number)
  part : Eval String

/-- The value of a filter. -/
def CallMeaning.filter (call : CallMeaning) (value : Json) : Eval Json := fun env => do
  if filterNames.contains call.name then
    let arguments ← call.arguments.mapM fun (key, argument) => do
      let v ← (argument env.unescaped).mapError fun e =>
        e.within ("Filter call '" ++ call.name ++ "' failed")
      pure (key, v)
    orFail (applyFilter call.name arguments value)
  else .error .failed

/-- The value of filters in a row; two of them do nothing here. -/
def applyFilters : List CallMeaning → Json → Eval Json
  | [], value, _ => .ok value
  | call :: calls, value, env =>
    if call.name = "safe" ∨ call.name = "default" then applyFilters calls value env
    else do applyFilters calls (← call.filter value env) env

/-- Whether some filter in a row does something. -/
def anyFilter (calls : List CallMeaning) : Bool :=
  calls.any fun call => !(call.name == "safe" || call.name == "default")

/-- The value of a path: the first filter may give one for a missing or null variable, and the
negation of a missing variable is true. -/
def pathValue (lookup : Eval (Json × Bool)) (negated : Bool) (calls : List CallMeaning) :
    Eval (Option (Json × Bool)) := fun env =>
  let default? : Option (Except RenderError Json) :=
    match calls with
    | call :: _ =>
      if call.name = "default" then
        some (match call.arguments.lookup "value" with
          | some value => value env
          | none => .error .failed)
      else none
    | [] => none
  match lookup env, default? with
  | .ok (.null, _), some value => value.map fun v => some (v, true)
  | .ok found, _ => .ok (some found)
  | .error _, some value => value.map fun v => some (v, true)
  | .error e, none => if negated then .ok none else .error e

/-- The printed value of an operand with filters. -/
def filteredValue (operand : OperandMeaning) (isPath : Bool) (negated : Bool)
    (calls : List CallMeaning) : Eval Json := fun env => do
  let start ←
    if isPath then pathValue operand.value negated calls env else (operand.value env).map some
  match start with
  | none => .ok (.bool true)
  | some (first, escapes) =>
    let value ← applyFilters calls first env
    if negated then .ok (.bool !(isTruthy value))
    else
      match value with
      | .string s =>
        let isSafe := match calls.getLast? with
          | some call => call.name == "safe"
          | none => false
        .ok (.string
          (if env.escaping && (escapes || anyFilter calls) && !isSafe then escape s else s))
      | value => .ok value

/-- Whether two values are equal in a condition: numbers by value, and a number is neither equal nor
unequal to anything else. -/
def equality (op : LogicOp) (left right : Json) : Bool × Bool :=
  let holds (equal : Bool) := if op = .unequal then !equal else equal
  match Number.ofJson? left, Number.ofJson? right with
  | some a, some b => (holds (a.toBinary64.same b.toBinary64), true)
  | none, none => (holds (same left right), true)
  | _, _ => (false, false)

/-- The truth of a logic operation, and whether a negation applies to it. -/
def logicTruth (op : LogicOp) (left right : Meaning) : Eval (Bool × Bool) := fun env => do
  match op with
  | .or =>
    if ← left.truth env then .ok (true, true)
    else return (← right.truth env, true)
  | .and =>
    if ← left.truth env then return (← right.truth env, true)
    else .ok (false, true)
  | .equal | .unequal =>
    let a ← left.value env
    let b ← right.value env
    .ok (equality op a b)
  | _ =>
    let a ← left.number env
    let b ← right.number env
    match a, b with
    | some a, some b => .ok (applyOrder op a b, true)
    | _, _ => .error .failed

/-- The number of an arithmetic operation. -/
def mathNumber (op : MathOp) (left right : Meaning) : Eval (Option Number) := fun env => do
  let a ← left.number env
  let b ← right.number env
  match a, b with
  | some a, some b =>
    match applyMath op a b with
    | .number n => .ok (some n)
    | .notANumber => .ok none
    | .refused => .error .failed
  | _, _ => .ok none

/-- The value of arithmetic. -/
def numberValue : Option Number → Json
  | some n => n.toJson
  | none => .string "NaN"

/-- The truth of a number. -/
def numberTruth : Option Number → Bool
  | some n => !n.toBinary64.isZero
  | none => false

/-- Whether a test holds for what a path leads to. -/
def testTruth (path : String) (negated : Bool) (name : String) (arguments : List Meaning) :
    Eval Bool := fun env => do
  let known := name == "defined" || name == "undefined"
  if !known then .error .failed
  else
    let evaluated : Except RenderError (List Json) :=
      arguments.mapM fun argument => argument.value env.unescaped
    let values ← evaluated.mapError (·.within ("Test call '" ++ name ++ "' failed"))
    if !values.isEmpty then .error .failed
    else
      let defined := match evalPath path env with
        | .ok _ => true
        | .error _ => false
      .ok ((defined == (name == "defined")) != negated)

/-- The meaning of an operand that is only a value. -/
def valueOnly (value : Eval (Json × Bool)) : OperandMeaning where
  value := value
  truth := fun env => do .ok (isTruthy (← value env).1, true)
  number := fun _ => .error .failed
  part := fun _ => .error .failed

mutual

/-- What an expression means. -/
def Expr.meaning : Expr → Meaning
  | .mk operand negated filters =>
    let inner := operand.meaning
    let calls := callMeanings filters
    let truth : Eval Bool := fun env => do
      let (b, negatable) ← inner.truth env
      .ok (if negated && negatable then !b else b)
    let value : Eval Json :=
      match operand with
      | .path _ => filteredValue inner true negated calls
      | .logic .. =>
        filteredValue { inner with value := fun env => do .ok (.bool (← truth env), false) } false
          negated calls
      | _ => filteredValue inner false negated calls
    { value := value
      truth :=
        match operand with
        | .path _ => fun env =>
          match value env with
          | .ok v => .ok (isTruthy v)
          | .error _ => .ok false
        | .concat _ => fun env => do .ok (isTruthy (← value env))
        | _ => truth
      number :=
        if filters.isEmpty then inner.number
        else fun env => do .ok (some (← orFail (Number.ofJson? (← value env)))) }

/-- What an operand means. -/
def Operand.meaning : Operand → OperandMeaning
  | .string s =>
    { valueOnly (fun _ => .ok (.string s, true)) with part := fun _ => .ok s }
  | .int i =>
    { valueOnly (fun _ => .ok (.int i, false)) with
      number := fun _ => .ok (some (.int i))
      part := fun _ => .ok (textOf (.int i)) }
  | .float x =>
    { valueOnly (fun _ => .ok (.double x, false)) with
      number := fun _ => .ok (some (.double x))
      part := fun _ => .ok (textOf (.double x)) }
  | .bool b => valueOnly (fun _ => .ok (.bool b, false))
  | .path path =>
    { valueOnly (fun env => do .ok (← evalPath path env, true)) with
      number := fun env => do .ok (some (← orFail (Number.ofJson? (← evalPath path env))))
      part := fun env => do
        match ← evalPath path env with
        | .string s => .ok s
        | .int i => .ok (Json.int i).compact
        | .double x => .ok (Json.double x).compact
        | _ => .error .failed }
  | .math op left right =>
    let number := mathNumber op left.meaning right.meaning
    let value : Eval (Json × Bool) := fun env => do
      let n ← (number env).mapError (·.outermost)
      .ok (numberValue n, false)
    { valueOnly value with
      truth := fun env => do .ok (numberTruth (← number env), true)
      number := number }
  | .logic op left right =>
    let truth := logicTruth op left.meaning right.meaning
    { valueOnly (fun env => do .ok (.bool (← truth env).1, false)) with truth := truth }
  | .test path negated name arguments =>
    let holds := testTruth path negated name (exprMeanings arguments)
    valueOnly (fun env => do .ok (.bool (← holds env), false))
  | .call _ => valueOnly (fun _ => .error .failed)
  | .array items =>
    let values := exprMeanings items
    { valueOnly (fun env => do .ok (.array (← values.mapM fun m => m.value env), false)) with
      truth := fun _ => .error .failed }
  | .concat parts =>
    let meanings := operandMeanings parts
    valueOnly (fun env => do
      .ok (.string (String.join (← meanings.mapM fun m => m.part env)), false))
  | .member item container negated =>
    let item := item.meaning
    let container := container.meaning
    valueOnly (fun env => do
      let a ← item.value env.unescaped
      let b ← container.value env.unescaped
      let holds ← orFail (contains? a b)
      .ok (.bool (holds != negated), false))

/-- What expressions mean. -/
def exprMeanings : List Expr → List Meaning
  | [] => []
  | e :: rest => e.meaning :: exprMeanings rest

/-- What operands mean. -/
def operandMeanings : List Operand → List OperandMeaning
  | [] => []
  | o :: rest => o.meaning :: operandMeanings rest

/-- Calls with the meanings of their arguments. -/
def callMeanings : List Call → List CallMeaning
  | [] => []
  | call :: rest => callMeaning call :: callMeanings rest

/-- A call with the meanings of its arguments. -/
def callMeaning : Call → CallMeaning
  | .mk name arguments => ⟨name, argumentMeanings arguments⟩

/-- The meanings of arguments. -/
def argumentMeanings : List (String × Expr) → List (String × Eval Json)
  | [] => []
  | argument :: rest => argumentMeaning argument :: argumentMeanings rest

/-- The meaning of an argument. -/
def argumentMeaning : String × Expr → String × Eval Json
  | (key, e) => (key, e.meaning.value)

end

/-- Output that depends on variables and may assign some. -/
abbrev Output := Env → Except RenderError (String × Env)

/-- Whether a loop can run over an expression: only over a path, an array or a call. -/
def canIterate : Expr → Bool
  | .mk (.path _) _ _ => true
  | .mk (.array _) _ _ => true
  | .mk (.call _) _ _ => true
  | _ => false

/-- What a loop runs over, each with its key: items of arrays and characters of texts have none, and
members of objects need them. -/
def iterated? (key : Option String) : Json → Option (List (Option (String × String) × Json))
  | .array items => if key.isNone then some (items.map fun item => (none, item)) else none
  | .string s =>
    if key.isNone then some (s.toList.map fun c => (none, .string c.toString)) else none
  | .object members => key.map fun name => members.map fun (k, v) => (some (name, k), v)
  | _ => none

/-- The output of a loop's body for each item; what the body assigns is forgotten each time. -/
def runLoop (body : Output) (env : Env) (name : String) (count : Nat) :
    Nat → List (Option (String × String) × Json) → Except RenderError String
  | _, [] => .ok ""
  | index, (key, value) :: rest => do
    let frame : Frame := { loop := some ⟨key, name, value, index, count⟩ }
    let (text, _) ← body { env with inner := frame, outer := env.inner :: env.outer }
    let others ← runLoop body env name count (index + 1) rest
    .ok (text ++ others)

mutual

/-- The output of pieces in a row; `whole` is the output of the template they stand in, for pieces
that include it again. -/
def renderPieces (whole : Output) : List Piece → Output
  | [], env => .ok ("", env)
  | piece :: rest, env => do
    let (text, env) ← renderPiece whole piece env
    let (others, env) ← renderPieces whole rest env
    .ok (text ++ others, env)

/-- The output of a piece. The only template there is to include is the one it stands in, which sees
all variables and whose own are forgotten. -/
def renderPiece (whole : Output) : Piece → Output
  | .text s, env => .ok (s, env)
  | .print e, env => do .ok (textOf (← e.meaning.value env), env)
  | .assign name e, env => do
    let value ← e.meaning.value env.unescaped
    let inner := { env.inner with assigned := env.inner.assigned.insert name value }
    .ok ("", { env with inner := inner })
  | .included names ignoreMissing, env =>
    if names.contains env.template then do
      let (text, _) ← whole { env with inner := {}, outer := env.inner :: env.outer }
      .ok (text, env)
    else if ignoreMissing then .ok ("", env)
    else .error .failed
  | .loop key name container body otherwise, env => do
    if canIterate container then
      let value ← container.meaning.value env.unescaped
      match ← orFail (iterated? key value) with
      | [] => renderPieces whole otherwise env
      | items =>
        let text ← runLoop (renderPieces whole body) env name items.length 0 items
        .ok (text, env)
    else .error .failed
  | .filtered call body, env => do
    let (text, env) ← renderPieces whole body env
    match callMeaning call with
    | ⟨"safe", _⟩ => .ok (text, env)
    | meaning => do .ok (textOf (← meaning.filter (.string text) env), env)
  | .branch condition yes no, env => do
    if ← condition.meaning.truth env then renderPieces whole yes env
    else renderPieces whole no env

end

/-- How deep a template can include itself. -/
def deepestInclusion : Nat := 1000

/-- The output of a template that can include itself to a given depth. -/
def renderNested (pieces : List Piece) : Nat → Output
  | 0, _ => .error .failed
  | depth + 1, env => renderPieces (renderNested pieces depth) pieces env

/-- The output of a template for a value, which has to be an object. -/
def render (template : String) (escaping : Bool) (pieces : List Piece) (value : Json) :
    Except RenderError String :=
  match value with
  | .object members =>
    let env : Env :=
      { template := template, escaping := escaping, inner := {}, outer := [], context := members }
    match renderNested pieces (deepestInclusion + 1) env with
    | .ok (text, _) => .ok text
    | .error e => .error (e.within ("Failed to render '" ++ template ++ "'"))
  | _ => .error .failed

end Quire.Template.Language
