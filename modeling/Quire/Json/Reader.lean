import Quire.Json.Skip

/-!
# Reading JSON

Readers for values of any type and for values of an expected type. A reader has a budget of nested
arrays and objects; where it is used up, another one is malformed.
-/

namespace Quire.Json

/-- How many arrays and objects may stand inside each other. -/
def nestingLimit : Nat := 127

/-- Reads the items of an array up to its closing bracket, at most `fuel` of them. -/
def readItems {α : Type} (item : Reader α) : Nat → Bool → Reader (List α)
  | 0, _, _ => .error .endOfText
  | fuel + 1, first, cs => do
    let (more, rest) ← nextItem first cs
    if more then
      let (value, rest) ← item rest
      let (values, rest) ← readItems item fuel false rest
      .ok (value :: values, rest)
    else
      let rest ← closeArray rest
      .ok ([], rest)

/-- Reads an array after its opening bracket. -/
def readArray {α : Type} (item : Reader α) : Reader (List α) := fun cs =>
  readItems item (cs.length + 1) true cs

/-- Reads the members of an object up to its closing brace, at most `fuel` of them. -/
def readMembers {α : Type} (value : Reader α) : Nat → Bool → Reader (List (String × α))
  | 0, _, _ => .error .endOfText
  | fuel + 1, first, cs => do
    match ← nextName first cs with
    | (none, rest) => .ok ([], rest)
    | (some name, rest) =>
      let rest ← readColon rest
      let (v, rest) ← value rest
      let (members, rest) ← readMembers value fuel false rest
      .ok ((name, v) :: members, rest)

/-- Reads an object after its opening brace. -/
def readObject {α : Type} (value : Reader α) : Reader (List (String × α)) := fun cs =>
  readMembers value (cs.length + 1) true cs

/-- A reader for arrays and objects that are nested too deeply. -/
def tooDeep {α : Type} : Reader α := fun _ =>
  .error .malformed

/-- Reads a value of any type, given readers for what stands inside brackets. -/
def readAny (items : Reader (List Json)) (members : Reader (List (String × Json))) :
    Reader Json := fun cs =>
  match skipBlanks cs with
  | [] => .error .endOfText
  | c :: rest =>
    if c = 'n' then do .ok (.null, ← readWord ['u', 'l', 'l'] rest)
    else if c = 't' then do .ok (.bool true, ← readWord ['r', 'u', 'e'] rest)
    else if c = 'f' then do .ok (.bool false, ← readWord ['a', 'l', 's', 'e'] rest)
    else if c = '-' then readNumber true rest
    else if c.isDigit then readNumber false (c :: rest)
    else if c = '"' then do
      let (s, rest) ← readText rest
      .ok (.string s, rest)
    else if c = '[' then do
      let (values, rest) ← items rest
      .ok (.array values, rest)
    else if c = '{' then do
      let (values, rest) ← members rest
      .ok (ofMembers values, rest)
    else .error .malformed

/-- Reads a value of any type with a budget of nested arrays and objects. -/
def readValue : Nat → Reader Json
  | 0 => readAny tooDeep tooDeep
  | depth + 1 => readAny (readArray (readValue depth)) (readObject (readValue depth))

/-- What a value is, for one that does not fit; arrays and objects are not looked into. -/
def readFound (cs : List Char) : Except ReadError Found :=
  match skipBlanks cs with
  | '[' :: _ => .ok .array
  | '{' :: _ => .ok .object
  | cs => do
    let (value, _) ← readAny tooDeep tooDeep cs
    match value with
    | .null => .ok .null
    | .bool b => .ok (.bool b)
    | .int i => .ok (.int i)
    | .double x => .ok (.double x)
    | .string s => .ok (.string s)
    | .array _ => .ok .array
    | .object _ => .ok .object

/-- Refuses the next value. -/
def refuse {α : Type} (expected : String) : Reader α := fun cs => do
  .error (.misfit (.wrongType (← readFound cs) expected))

/-- Reads a text; `expected` names what is expected. -/
def readStringAs (expected : String) : Reader String := fun cs =>
  match skipBlanks cs with
  | '"' :: rest => readText rest
  | cs => refuse expected cs

/-- Reads a text. -/
def readString : Reader String :=
  readStringAs "a string"

/-- Reads a truth value. -/
def readBool : Reader Bool := fun cs =>
  match skipBlanks cs with
  | 't' :: rest => do .ok (true, ← readWord ['r', 'u', 'e'] rest)
  | 'f' :: rest => do .ok (false, ← readWord ['a', 'l', 's', 'e'] rest)
  | cs => refuse "a boolean" cs

/-- Reads a value where null stands for its absence. -/
def readOptional {α : Type} (read : Reader α) : Reader (Option α) := fun cs =>
  match skipBlanks cs with
  | 'n' :: rest => do .ok (none, ← readWord ['u', 'l', 'l'] rest)
  | cs => do
    let (value, rest) ← read cs
    .ok (some value, rest)

/-- Reads an array of values. -/
def readList {α : Type} (items : Reader (List α)) : Reader (List α) := fun cs =>
  match skipBlanks cs with
  | '[' :: rest => items rest
  | cs => refuse "a sequence" cs

/-- Reads an object of values. -/
def readDictionary {α : Type} (members : Reader (List (String × α))) : Reader (Dictionary α) :=
  fun cs =>
    match skipBlanks cs with
    | '{' :: rest => do
      let (pairs, rest) ← members rest
      .ok (Dictionary.ofList pairs, rest)
    | cs => refuse "a map" cs

/-- Reads a text that holds one value and nothing else. -/
def parseWith {α : Type} (read : Reader α) (text : String) : Except ReadError α := do
  let (value, rest) ← read text.toList
  if (skipBlanks rest).isEmpty then .ok value else .error .malformed

/-- Reads a text that holds one value of any type. -/
def parse (text : String) : Except ReadError Json :=
  parseWith (readValue nestingLimit) text

end Quire.Json
