import Quire.Text.Lines

/-!
# Escaped text for troff

Text written into a man page. Backslashes and hyphens are escaped, and a line of text that would
start with a control character is protected by an escape of no width.
-/

namespace Quire.Troff

/-- A character inside a line. -/
def escapeChar (c : Char) : List Char :=
  if c = '\\' then ['\\', '(', 'r', 's']
  else if c = '-' then ['\\', '-']
  else [c]

/-- The characters of a text as they stand inside a line. -/
def escapeChars (cs : List Char) : List Char :=
  cs.flatMap escapeChar

/-- A text as it stands inside a line. -/
def escape (s : String) : String :=
  String.ofList (escapeChars s.toList)

/-- Whether a line starts with a character that begins a request. -/
def startsRequest : List Char → Bool
  | c :: _ => c == '.' || c == '\''
  | [] => false

/-- A line of text. -/
def escapeLine (line : List Char) : List Char :=
  let escaped := escapeChars line
  if startsRequest escaped then '\\' :: '&' :: escaped else escaped

/-- A text of several lines. -/
def escapeLines (s : String) : String :=
  Text.join "\n" ((Text.lines s.toList).map fun line => String.ofList (escapeLine line))

end Quire.Troff
