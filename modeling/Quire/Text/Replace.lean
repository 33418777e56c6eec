/-!
# Replacement

Finding a text in another, and replacing every occurrence of one, from left to right.
-/

namespace Quire.Text

/-- What stands before and behind the first occurrence of `pattern` in a text. -/
def splitAtFirst (pattern : List Char) : List Char → Option (List Char × List Char)
  | [] => if pattern.isEmpty then some ([], []) else none
  | c :: rest =>
    if pattern.isPrefixOf (c :: rest) then some ([], (c :: rest).drop pattern.length)
    else (splitAtFirst pattern rest).map fun (before, behind) => (c :: before, behind)

/-- Replaces the non-empty `pattern` in a text of which the next `skip` characters belong to an
occurrence that has been replaced already. -/
def replaceFrom (pattern replacement : List Char) : Nat → List Char → List Char
  | _, [] => []
  | skip + 1, _ :: rest => replaceFrom pattern replacement skip rest
  | 0, c :: rest =>
    if pattern.isPrefixOf (c :: rest) then
      replacement ++ replaceFrom pattern replacement (pattern.length - 1) rest
    else c :: replaceFrom pattern replacement 0 rest

/-- Every occurrence of `pattern` replaced; the empty pattern occurs before each character and at
the end. -/
def replaceChars (pattern replacement text : List Char) : List Char :=
  if pattern.isEmpty then text.flatMap (fun c => replacement ++ [c]) ++ replacement
  else replaceFrom pattern replacement 0 text

/-- Every occurrence of `pattern` in a text replaced. -/
def replace (pattern replacement text : String) : String :=
  String.ofList (replaceChars pattern.toList replacement.toList text.toList)

end Quire.Text
