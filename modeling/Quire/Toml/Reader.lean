import Quire.Toml.Basic
import Quire.Toml.Scalar

/-!
# Reading TOML

Reads a document of tables, keys and values. A document that is not well formed has no value.
-/

namespace Quire.Toml

/-- Reads something from the start of a text. -/
abbrev Reader (α : Type) := List Char → Option (α × List Char)

/-- How deeply values may stand inside each other, and how many parts a key may have. -/
def nestingLimit : Nat := 79

/-- The text without blanks at its start. -/
def skipBlanks (cs : List Char) : List Char :=
  cs.dropWhile fun c => c == ' ' || c == '\t'

/-- Whether a character may stand in a comment or a quoted text. -/
def isPrintable (c : Char) : Bool :=
  c == '\t' || (0x20 ≤ c.toNat && c.toNat != 0x7F)

/-- The text behind a line end. -/
def afterLineEnd : List Char → Option (List Char)
  | '\n' :: rest => some rest
  | '\r' :: '\n' :: rest => some rest
  | _ => none

/-- The text behind a comment, if one stands here. -/
def skipComment (cs : List Char) : List Char :=
  match cs with
  | '#' :: rest => rest.dropWhile isPrintable
  | cs => cs

/-- The text behind the rest of a line, with blanks and a comment. -/
def endLine (cs : List Char) : Option (List Char) :=
  match skipComment (skipBlanks cs) with
  | [] => some []
  | rest => afterLineEnd rest

/-- The text behind blanks, comments and line ends. -/
def skipLines : Nat → List Char → List Char
  | 0, cs => cs
  | fuel + 1, cs =>
    let rest := skipComment (skipBlanks cs)
    match afterLineEnd rest with
    | some rest => skipLines fuel rest
    | none => rest

/-- The character that hexadecimal digits stand for. -/
def escapedNumber (digits : Nat) (cs : List Char) : Option (Char × List Char) :=
  let ds := cs.take digits
  let n := valueOf 16 ds
  if ds.length == digits && ds.all isHexDigit && (n < 0xD800 || (0xE000 ≤ n && n < 0x110000)) then
    some (Char.ofNat n, cs.drop digits)
  else none

/-- Reads an escape after its backslash. -/
def escape : Reader Char
  | [] => none
  | c :: rest =>
    if c = 'b' then some ('\x08', rest)
    else if c = 't' then some ('\t', rest)
    else if c = 'n' then some ('\n', rest)
    else if c = 'f' then some ('\x0c', rest)
    else if c = 'r' then some ('\r', rest)
    else if c = '"' then some ('"', rest)
    else if c = '\\' then some ('\\', rest)
    else if c = 'u' then escapedNumber 4 rest
    else if c = 'U' then escapedNumber 8 rest
    else none

/-- Reads a text with escapes up to its closing quote. -/
def basicChars : Nat → Reader (List Char)
  | 0, _ => none
  | _, [] => none
  | fuel + 1, c :: rest =>
    if c = '"' then some ([], rest)
    else if c = '\\' then do
      let (c, rest) ← escape rest
      let (cs, rest) ← basicChars fuel rest
      some (c :: cs, rest)
    else if isPrintable c then do
      let (cs, rest) ← basicChars fuel rest
      some (c :: cs, rest)
    else none

/-- Reads a text without escapes up to its closing quote. -/
def literalChars : Reader (List Char)
  | [] => none
  | c :: rest =>
    if c = '\'' then some ([], rest)
    else if isPrintable c then do
      let (cs, rest) ← literalChars rest
      some (c :: cs, rest)
    else none

/-- The text behind blanks and line ends. -/
def skipSpace : List Char → List Char
  | '\r' :: '\n' :: rest => skipSpace rest
  | c :: rest => if c == ' ' || c == '\t' || c == '\n' then skipSpace rest else c :: rest
  | [] => []

/-- Reads a text of several lines up to its three closing quotes, before which up to two more quotes
belong to the text; `escapes` tells that backslashes are escapes. -/
def longChars (quote : Char) (escapes : Bool) : Nat → Reader (List Char)
  | 0, _ => none
  | _, [] => none
  | fuel + 1, c :: rest =>
    let quotes := (c :: rest).takeWhile (· == quote)
    if quotes.length ≥ 3 then
      let inner := min (quotes.length - 3) 2
      some (List.replicate inner quote, (c :: rest).drop (inner + 3))
    else if escapes && c == '\\' then
      match endLine rest with
      | some _ =>
        if (skipBlanks rest).head? == some '#' then none
        else longChars quote escapes fuel (skipSpace rest)
      | none => do
        let (c, rest) ← escape rest
        let (cs, rest) ← longChars quote escapes fuel rest
        some (c :: cs, rest)
    else
      match afterLineEnd (c :: rest) with
      | some rest => do
        let (cs, rest) ← longChars quote escapes fuel rest
        some ('\n' :: cs, rest)
      | none =>
        if isPrintable c then do
          let (cs, rest) ← longChars quote escapes fuel rest
          some (c :: cs, rest)
        else none

/-- Reads a quoted text on one line. -/
def shortString : Reader String
  | '"' :: rest => do
    let (cs, rest) ← basicChars (rest.length + 1) rest
    some (String.ofList cs, rest)
  | '\'' :: rest => do
    let (cs, rest) ← literalChars rest
    some (String.ofList cs, rest)
  | _ => none

/-- Reads a quoted text of one of the four kinds. -/
def anyString (cs : List Char) : Option (String × List Char) :=
  let long (quote : Char) (escapes : Bool) (rest : List Char) := do
    let rest := (afterLineEnd rest).getD rest
    let (cs, rest) ← longChars quote escapes (rest.length + 1) rest
    some (String.ofList cs, rest)
  match cs with
  | '"' :: '"' :: '"' :: rest => long '"' true rest
  | '\'' :: '\'' :: '\'' :: rest => long '\'' false rest
  | cs => shortString cs

/-- Whether a character may stand in a key without quotes. -/
def isBare (c : Char) : Bool :=
  c.isAlphanum || c == '_' || c == '-'

/-- Reads one part of a key. -/
def keyPart (cs : List Char) : Option (String × List Char) :=
  match shortString cs with
  | some found => some found
  | none =>
    let part := cs.takeWhile isBare
    if part.isEmpty then none else some (String.ofList part, cs.dropWhile isBare)

/-- Reads the parts of a key with points between them, at most as many as a limit. -/
def keyParts : Nat → Reader (List String)
  | 0, _ => none
  | limit + 1, cs => do
    let (part, rest) ← keyPart (skipBlanks cs)
    match skipBlanks rest with
    | '.' :: rest =>
      let (parts, rest) ← keyParts limit rest
      some (part :: parts, rest)
    | rest => some ([part], rest)

/-- Reads a key. -/
def key : Reader (List String) :=
  keyParts nestingLimit

/-- Whether a character may stand in a number or a time. -/
def isScalarChar (c : Char) : Bool :=
  c.isAlphanum || c == '_' || c == '-' || c == '+' || c == '.' || c == ':'

/-- Reads a truth value, a number or a time; a blank may stand between a date and a time of day. -/
def scalar (cs : List Char) : Option (Toml × List Char) :=
  let word := cs.takeWhile isScalarChar
  let rest := cs.dropWhile isScalarChar
  let (word, rest) :=
    match rest with
    | ' ' :: a :: b :: ':' :: _ =>
      if afterDate word == some [] && a.isDigit && b.isDigit then
        let time := (rest.drop 1).takeWhile isScalarChar
        (word ++ ' ' :: time, (rest.drop 1).dropWhile isScalarChar)
      else (word, rest)
    | _ => (word, rest)
  if word == ['t', 'r', 'u', 'e'] then some (.bool true, rest)
  else if word == ['f', 'a', 'l', 's', 'e'] then some (.bool false, rest)
  else if isInteger word || isFloat word then some (.number, rest)
  else if isTime word then some (.time, rest)
  else none

mutual

/-- Reads a value with a budget of values inside it. -/
def value : Nat → Nat → Reader Toml
  | 0, _, _ => none
  | fuel + 1, depth, cs =>
    match cs with
    | '[' :: rest =>
      if depth = 0 then none
      else do
        let (values, rest) ← items fuel (depth - 1) rest
        some (.array values, rest)
    | '{' :: rest =>
      if depth = 0 then none
      else do
        let (members, rest) ← members fuel (depth - 1) true [] rest
        some (.table (finishMembers members), rest)
    | cs =>
      match anyString cs with
      | some (s, rest) => some (.string s, rest)
      | none => scalar cs

/-- Reads the items of an array up to its closing bracket. -/
def items : Nat → Nat → Reader (List Toml)
  | 0, _, _ => none
  | fuel + 1, depth, cs =>
    match skipLines cs.length cs with
    | ']' :: rest => some ([], rest)
    | cs => do
      let (item, rest) ← value fuel depth cs
      match skipLines rest.length rest with
      | ',' :: rest =>
        let (others, rest) ← items fuel depth rest
        some (item :: others, rest)
      | ']' :: rest => some ([item], rest)
      | _ => none

/-- Reads the members of a table on one line up to its closing brace. -/
def members : Nat → Nat → Bool → Members → Reader Members
  | 0, _, _, _, _ => none
  | fuel + 1, depth, first, found, cs =>
    match first, skipBlanks cs with
    | true, '}' :: rest => some (found, rest)
    | _, cs => do
      let (found, rest) ← member fuel depth found cs
      match skipBlanks rest with
      | ',' :: rest => members fuel depth false found rest
      | '}' :: rest => some (found, rest)
      | _ => none

/-- Reads a key and its value and adds them to the members found so far. -/
def member : Nat → Nat → Members → Reader Members
  | 0, _, _, _ => none
  | fuel + 1, depth, found, cs => do
    let (parts, rest) ← key cs
    let rest ← behind '=' (skipBlanks rest)
    let (v, rest) ← value fuel depth (skipBlanks rest)
    let last ← parts.getLast?
    let found ← change true (addNew last (.value v)) parts.dropLast found
    some (found, rest)

end

/-- What has been read of a document: its members, and the keys of the table opened last. -/
structure Progress where
  members : Members
  here : List String

/-- Reads the header of a table after its brackets. -/
def header (double : Bool) (progress : Progress) : Reader Progress := fun cs => do
  let (parts, rest) ← key cs
  let rest ← behind ']' rest
  let rest ← if double then behind ']' rest else some rest
  let last ← parts.getLast?
  let action := if double then openItem last else openTable last
  let members ← change false action parts.dropLast progress.members
  some (⟨members, parts⟩, rest)

/-- Reads one line that is not empty. -/
def line (progress : Progress) : Reader Progress := fun cs =>
  match cs with
  | '[' :: '[' :: rest => header true progress rest
  | '[' :: rest => header false progress rest
  | cs => do
    let add (found : Members) := (member (cs.length + 1) nestingLimit found cs).map (·.1)
    let members ← inside add progress.here progress.members
    let (_, rest) ← member (cs.length + 1) nestingLimit [] cs
    some (⟨members, progress.here⟩, rest)

/-- Reads the lines of a document. -/
def document : Nat → Progress → List Char → Option Members
  | 0, _, _ => none
  | fuel + 1, progress, cs =>
    match skipLines (cs.length + 1) cs with
    | [] => some progress.members
    | cs => do
      let (progress, rest) ← line progress cs
      let rest ← endLine rest
      document fuel progress rest

/-- The members of a document; a byte order mark at its start is no part of it. -/
def parse (text : String) : Option (List (String × Toml)) :=
  let cs := match text.toList with
    | '\uFEFF' :: rest => rest
    | cs => cs
  (document (cs.length + 1) ⟨[], []⟩ cs).map finishMembers

end Quire.Toml
