import Quire.Json.Error

/-!
# JSON tokens

Reading blanks, words, texts and the separators of arrays and objects.
-/

namespace Quire.Json

/-- The four blanks of JSON. -/
def isBlank (c : Char) : Bool :=
  c == ' ' || c == '\t' || c == '\n' || c == '\r'

/-- The text from its first non-blank character on. -/
def skipBlanks (cs : List Char) : List Char :=
  cs.dropWhile isBlank

/-- Reads the characters of a word. -/
def readWord : List Char → List Char → Except ReadError (List Char)
  | [], cs => .ok cs
  | _ :: _, [] => .error .endOfText
  | w :: word, c :: cs => if c = w then readWord word cs else .error .malformed

/-- The value of a hexadecimal digit. -/
def hexValue? (c : Char) : Option Nat :=
  if '0' ≤ c ∧ c ≤ '9' then some (c.toNat - '0'.toNat)
  else if 'a' ≤ c ∧ c ≤ 'f' then some (c.toNat - 'a'.toNat + 10)
  else if 'A' ≤ c ∧ c ≤ 'F' then some (c.toNat - 'A'.toNat + 10)
  else none

/-- The number of bytes of a text. -/
def byteCount (cs : List Char) : Nat :=
  cs.foldr (fun c count => c.utf8Size + count) 0

/-- The error where four hexadecimal digits are expected: the text ended if it has fewer than four
bytes. -/
def noFourDigits (cs : List Char) : ReadError :=
  if byteCount (cs.take 4) < 4 then .endOfText else .malformed

/-- Reads four hexadecimal digits. -/
def readFourDigits : Reader Nat
  | a :: b :: c :: d :: rest =>
    match hexValue? a, hexValue? b, hexValue? c, hexValue? d with
    | some a, some b, some c, some d => .ok (((a * 16 + b) * 16 + c) * 16 + d, rest)
    | _, _, _, _ => .error (noFourDigits (a :: b :: c :: d :: rest))
  | cs => .error (noFourDigits cs)

/-- What a one-letter escape stands for. -/
def escapedChar? (c : Char) : Option Char :=
  if c = '"' then some '"'
  else if c = '\\' then some '\\'
  else if c = '/' then some '/'
  else if c = 'b' then some '\x08'
  else if c = 'f' then some '\x0c'
  else if c = 'n' then some '\n'
  else if c = 'r' then some '\r'
  else if c = 't' then some '\t'
  else none

/-- Reads the second half of a surrogate pair whose first half is `high`. -/
def readLowSurrogate (high : Nat) : Reader Char
  | [] => .error .endOfText
  | ['\\'] => .error .endOfText
  | '\\' :: 'u' :: rest => do
    let (low, rest) ← readFourDigits rest
    if 0xDC00 ≤ low ∧ low ≤ 0xDFFF then
      .ok (Char.ofNat ((high - 0xD800) * 0x400 + (low - 0xDC00) + 0x10000), rest)
    else .error .malformed
  | _ => .error .malformed

/-- Reads an escape after its backslash. -/
def readEscape : Reader Char
  | [] => .error .endOfText
  | 'u' :: rest => do
    let (n, rest) ← readFourDigits rest
    if 0xDC00 ≤ n ∧ n ≤ 0xDFFF then .error .malformed
    else if 0xD800 ≤ n ∧ n ≤ 0xDBFF then readLowSurrogate n rest
    else .ok (Char.ofNat n, rest)
  | c :: rest =>
    match escapedChar? c with
    | some c => .ok (c, rest)
    | none => .error .malformed

/-- Reads one character of a text, or the quote that closes it. -/
def readChar : Reader (Option Char)
  | [] => .error .endOfText
  | c :: rest =>
    if c = '"' then .ok (none, rest)
    else if c = '\\' then do
      let (c, rest) ← readEscape rest
      .ok (some c, rest)
    else if c.toNat < 0x20 then .error .malformed
    else .ok (some c, rest)

/-- Reads the characters of a text up to its closing quote, at most `fuel` of them. -/
def readChars : Nat → Reader (List Char)
  | 0, _ => .error .endOfText
  | fuel + 1, cs => do
    match ← readChar cs with
    | (none, rest) => .ok ([], rest)
    | (some c, rest) =>
      let (text, rest) ← readChars fuel rest
      .ok (c :: text, rest)

/-- Reads a text after its opening quote. -/
def readText : Reader String := fun cs => do
  let (text, rest) ← readChars (cs.length + 1) cs
  .ok (String.ofList text, rest)

/-- Whether an array has a further item; the text then starts with it. -/
def nextItem (first : Bool) (cs : List Char) : Except ReadError (Bool × List Char) :=
  match skipBlanks cs with
  | [] => .error .endOfText
  | c :: rest =>
    if c = ']' then .ok (false, c :: rest)
    else if first then .ok (true, c :: rest)
    else if c = ',' then
      match skipBlanks rest with
      | [] => .error .endOfText
      | c :: rest => if c = ']' then .error .malformed else .ok (true, c :: rest)
    else .error .malformed

/-- Reads the bracket that closes an array. -/
def closeArray (cs : List Char) : Except ReadError (List Char) :=
  match skipBlanks cs with
  | [] => .error .endOfText
  | c :: rest => if c = ']' then .ok rest else .error .malformed

/-- Reads the name of an object's next member, or the brace that closes the object. -/
def nextName (first : Bool) (cs : List Char) : Except ReadError (Option String × List Char) :=
  let readName (cs : List Char) : Except ReadError (Option String × List Char) :=
    match cs with
    | '"' :: rest => do
      let (name, rest) ← readText rest
      .ok (some name, rest)
    | _ => .error .malformed
  match skipBlanks cs with
  | [] => .error .endOfText
  | c :: rest =>
    if c = '}' then .ok (none, rest)
    else if first then readName (c :: rest)
    else if c = ',' then
      match skipBlanks rest with
      | [] => .error .endOfText
      | rest => readName rest
    else .error .malformed

/-- Reads the colon between a member's name and value. -/
def readColon (cs : List Char) : Except ReadError (List Char) :=
  match skipBlanks cs with
  | [] => .error .endOfText
  | c :: rest => if c = ':' then .ok rest else .error .malformed

end Quire.Json
