import Quire.Json.Numeral

/-!
# Skipping values

Passing over a value that is not kept. It has to be well formed, but it may nest to any depth, its
numbers may have any size, and its escapes need not form characters.
-/

namespace Quire.Json

/-- Passes over an escape after its backslash. -/
def skipEscape : List Char → Except ReadError (List Char)
  | [] => .error .endOfText
  | 'u' :: rest => do
    let (_, rest) ← readFourDigits rest
    .ok rest
  | c :: rest => if (escapedChar? c).isSome then .ok rest else .error .malformed

/-- Passes over the characters of a text up to its closing quote, at most `fuel` of them. -/
def skipChars : Nat → List Char → Except ReadError (List Char)
  | 0, _ => .error .endOfText
  | _, [] => .error .endOfText
  | fuel + 1, c :: rest =>
    if c = '"' then .ok rest
    else if c = '\\' then do skipChars fuel (← skipEscape rest)
    else if c.toNat < 0x20 then .error .malformed
    else skipChars fuel rest

/-- Passes over a text after its opening quote. -/
def skipText (cs : List Char) : Except ReadError (List Char) :=
  skipChars (cs.length + 1) cs

/-- Passes over a number after its sign; here the end of the text is no better than another
character. -/
def skipNumber (cs : List Char) : Except ReadError (List Char) :=
  match Numeral.read false cs with
  | .ok (_, rest) => .ok rest
  | .error _ => .error .malformed

/-- Passes over a member's name and colon. -/
def skipName (cs : List Char) : Except ReadError (List Char) :=
  match skipBlanks cs with
  | [] => .error .endOfText
  | '"' :: rest => do readColon (← skipText rest)
  | _ => .error .malformed

/-- An open array or object. -/
inductive Bracket where
  | square
  | curly

/-- The character that closes a bracket. -/
def Bracket.close : Bracket → Char
  | .square => ']'
  | .curly => '}'

/-- Where skipping stands among the open brackets. -/
inductive SkipState where
  /-- A value comes next. -/
  | value
  /-- A bracket has just been opened. -/
  | opened
  /-- A value has just ended. -/
  | ended

/-- Passes over the rest of the value that the open brackets belong to. -/
def skipFrom : Nat → SkipState → List Bracket → List Char → Except ReadError (List Char)
  | 0, _, _, _ => .error .endOfText
  | _ + 1, .ended, [], cs => .ok cs
  | fuel + 1, .value, stack, cs =>
    match skipBlanks cs with
    | [] => .error .endOfText
    | c :: rest =>
      if c = 'n' then do skipFrom fuel .ended stack (← readWord ['u', 'l', 'l'] rest)
      else if c = 't' then do skipFrom fuel .ended stack (← readWord ['r', 'u', 'e'] rest)
      else if c = 'f' then do skipFrom fuel .ended stack (← readWord ['a', 'l', 's', 'e'] rest)
      else if c = '-' then do skipFrom fuel .ended stack (← skipNumber rest)
      else if c.isDigit then do skipFrom fuel .ended stack (← skipNumber (c :: rest))
      else if c = '"' then do skipFrom fuel .ended stack (← skipText rest)
      else if c = '[' then skipFrom fuel .opened (.square :: stack) rest
      else if c = '{' then skipFrom fuel .opened (.curly :: stack) rest
      else .error .malformed
  | _ + 1, .opened, [], _ => .error .malformed
  | fuel + 1, state, bracket :: stack, cs =>
    let element (cs : List Char) : Except ReadError (List Char) :=
      match bracket with
      | .square => .ok cs
      | .curly => skipName cs
    match skipBlanks cs with
    | [] => .error .endOfText
    | c :: rest =>
      if c = bracket.close then skipFrom fuel .ended stack rest
      else match state with
        | .ended =>
          if c = ',' then do skipFrom fuel .value (bracket :: stack) (← element rest)
          else .error .malformed
        | _ => do skipFrom fuel .value (bracket :: stack) (← element (c :: rest))

/-- Passes over a value. -/
def skipValue (cs : List Char) : Except ReadError (List Char) :=
  skipFrom (2 * cs.length + 2) .value [] cs

end Quire.Json
