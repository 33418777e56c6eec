/-!
# Paths

Paths as texts. Joining inserts at most one slash and normalizes nothing.
-/

namespace Quire.Path

/-- Whether a path starts at the root. -/
def isAbsolute (path : String) : Bool :=
  path.toList.head? == some '/'

/-- The path `b` as seen from `a`: an absolute one replaces `a`. -/
def join (a b : String) : String :=
  if isAbsolute b then b
  else if a.isEmpty || a.toList.getLast? == some '/' then a ++ b
  else a ++ "/" ++ b

/-- The pieces of a text between slashes; `piece` holds the current one, last character first. -/
def piecesFrom (piece : List Char) : List Char → List String
  | [] => [String.ofList piece.reverse]
  | c :: rest =>
    if c = '/' then String.ofList piece.reverse :: piecesFrom [] rest
    else piecesFrom (c :: piece) rest

/-- The pieces of a path between slashes. -/
def pieces (path : String) : List String :=
  piecesFrom [] path.toList

/-- The last name in a path, unless the path ends in the root or in `..` or is only `.`. -/
def fileName? (path : String) : Option String :=
  let names := (pieces path).filter fun piece => !(piece == "" || piece == ".")
  match names.getLast? with
  | some name => if name = ".." then none else some name
  | none => none

/-- The last name in a path without its extension; a dot at the start begins no extension. -/
def stem? (path : String) : Option String :=
  (fileName? path).map fun name =>
    let cs := name.toList
    let afterDot := cs.reverse.takeWhile (· != '.')
    let before := cs.take (cs.length - afterDot.length - 1)
    if cs.contains '.' && !before.isEmpty then String.ofList before else name

/-- Drops slashes and `.` pieces from the end of a reversed path, but not all of it. -/
def trimReversed : List Char → List Char
  | ['/'] => ['/']
  | '/' :: rest => trimReversed rest
  | ['.', '/'] => ['/']
  | '.' :: '/' :: rest => trimReversed rest
  | cs => cs

/-- The directory part of the path of a file. -/
def parent (path : String) : String :=
  String.ofList (trimReversed (path.toList.reverse.dropWhile (· != '/'))).reverse

/-- Whether a name is one plain piece of a path. -/
def isPlainName (name : String) : Bool :=
  !(name.isEmpty || name == "." || name == ".." || name.toList.any fun c => c == '/' || c == '\\')

end Quire.Path
