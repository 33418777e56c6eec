import Quire.Files.Tree

/-!
# Template search

Finding the template of a node kind in an ordered list of directories. Inside each one the places
`engine/backend`, `engine`, `backend` and the directory itself are looked into, in this order and
as far as they exist.
-/

namespace Quire.Template

/-- A template that was found. -/
structure Found where
  name : String
  path : String
  source : String
deriving DecidableEq

/-- A template that is there and cannot be read. -/
structure LookupError where
  path : String
  cause : FileError
deriving DecidableEq

/-- The wording of a failed look-up. -/
def LookupError.message (e : LookupError) : String :=
  "Failed to read template " ++ e.path ++ ": " ++ e.cause.message

/-- Where templates are searched. -/
structure Search where
  directories : List String
  engine : String
  backend : String
  extension : String

namespace Search

/-- A search in the given directories, relative ones below `base`. -/
def inDirectories (directories : List String) (base engine backend extension : String) :
    Search where
  directories := directories.map (Path.join base)
  engine := engine
  backend := backend
  extension := extension

/-- The places inside one directory that exist, the most specific one first. -/
def places (search : Search) (files : FileTree) (directory : String) : List String :=
  if files.isDir directory then
    let engineDir := Path.join directory search.engine
    let engineBackendDir := Path.join engineDir search.backend
    let backendDir := Path.join directory search.backend
    let nested :=
      if search.engine ≠ "" ∧ files.isDir engineDir then
        (if files.isDir engineBackendDir then [engineBackendDir] else []) ++ [engineDir]
      else []
    nested ++ (if files.isDir backendDir then [backendDir] else []) ++ [directory]
  else []

/-- The name of a template's file. -/
def fileName (search : Search) (name : String) : String :=
  if search.extension = "" then name else name ++ "." ++ search.extension

/-- The paths that are tried for a name, in order; only a plain name has any. -/
def candidates (search : Search) (files : FileTree) (name : String) : List String :=
  if Path.isPlainName name then
    (search.directories.flatMap (search.places files)).map fun place =>
      Path.join place (search.fileName name)
  else []

/-- The first of some paths that holds a template. -/
def firstOf (files : FileTree) (name : String) :
    List String → Except LookupError (Option Found)
  | [] => .ok none
  | path :: paths =>
    if files.isDir path then firstOf files name paths
    else
      match files.readText path with
      | .ok source => .ok (some ⟨name, path, source⟩)
      | .error .notFound => firstOf files name paths
      | .error cause => .error ⟨path, cause⟩

/-- The template for a name. -/
def resolve (search : Search) (files : FileTree) (name : String) :
    Except LookupError (Option Found) :=
  firstOf files name (search.candidates files name)

end Search

end Quire.Template
