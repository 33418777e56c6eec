import Quire.Dictionary
import Quire.Files.Path

/-!
# File trees

The files and directories below the root, and what looking at a path, reading and writing do. A
path is walked piece by piece from the root or from the working directory.
-/

namespace Quire

/-- A file with its bytes, or a directory. -/
inductive FileEntry where
  | file (bytes : ByteArray)
  | directory (entries : List (String × FileEntry))

/-- Why a path cannot be read or written. -/
inductive FileError where
  | notFound
  | notDirectory
  | isDirectory
  | nameTooLong
  | nulInName
  | notText
deriving DecidableEq

/-- The wording of a file error. -/
def FileError.message : FileError → String
  | notFound => "No such file or directory (os error 2)"
  | notDirectory => "Not a directory (os error 20)"
  | isDirectory => "Is a directory (os error 21)"
  | nameTooLong => "File name too long (os error 36)"
  | nulInName => "file name contained an unexpected NUL byte"
  | notText => "stream did not contain valid UTF-8"

namespace FileEntry

/-- The entry at a list of names. -/
def at? : FileEntry → List String → Option FileEntry
  | entry, [] => some entry
  | .file _, _ :: _ => none
  | .directory entries, name :: names =>
    match Entries.find? entries name with
    | some entry => entry.at? names
    | none => none
termination_by structural _ names => names

/-- Changes what is at a list of names, making the directories on the way. -/
def alter (change : Option FileEntry → Option FileEntry) :
    List String → Option FileEntry → Option FileEntry
  | [], entry => change entry
  | name :: names, entry =>
    let entries := match entry with
      | some (.directory entries) => entries
      | _ => []
    match alter change names (Entries.find? entries name) with
    | some new => some (.directory (Entries.insert name new entries))
    | none => some (.directory (Entries.erase name entries))

end FileEntry

/-- The entries below the root, and the working directory as a list of names. -/
structure FileTree where
  root : FileEntry
  workingDir : List String

namespace FileTree

/-- A tree that holds nothing but a working directory. -/
def rooted (workingDir : List String) : FileTree where
  root := (FileEntry.alter (fun _ => some (.directory [])) workingDir none).getD (.directory [])
  workingDir := workingDir

/-- The most bytes that the name of an entry can have. -/
def longestName : Nat := 255

/-- The number of bytes from which on a path is too long. -/
def pathLimit : Nat := 4096

/-- Walks the pieces of a path from `here` and gives the names it leads to. -/
def walk (tree : FileTree) (here : List String) : List String → Except FileError (List String)
  | [] => .ok here
  | piece :: pieces =>
    match tree.root.at? here with
    | some (.directory entries) =>
      if piece = "" ∨ piece = "." then tree.walk here pieces
      else if piece = ".." then tree.walk here.dropLast pieces
      else if piece.utf8ByteSize > longestName then .error .nameTooLong
      else if (Entries.find? entries piece).isNone then .error .notFound
      else tree.walk (here ++ [piece]) pieces
    | some (.file _) => .error .notDirectory
    | none => .error .notFound

/-- Where the walk along a path starts. -/
def start (tree : FileTree) (path : String) : List String :=
  if Path.isAbsolute path then [] else tree.workingDir

/-- Refuses texts that are no paths at all. -/
def checkPath (path : String) : Except FileError Unit :=
  if path.toList.contains '\x00' then .error .nulInName
  else if path.isEmpty then .error .notFound
  else if path.utf8ByteSize ≥ pathLimit then .error .nameTooLong
  else .ok ()

/-- The entry that a path leads to. -/
def lookup (tree : FileTree) (path : String) : Except FileError FileEntry := do
  checkPath path
  let names ← tree.walk (tree.start path) (Path.pieces path)
  match tree.root.at? names with
  | some entry => .ok entry
  | none => .error .notFound

/-- Whether a path leads to a directory. -/
def isDir (tree : FileTree) (path : String) : Bool :=
  match tree.lookup path with
  | .ok (.directory _) => true
  | _ => false

/-- Whether a path leads to a file. -/
def isFile (tree : FileTree) (path : String) : Bool :=
  match tree.lookup path with
  | .ok (.file _) => true
  | _ => false

/-- The text of bytes, if they are one. -/
def decode (bytes : ByteArray) : Except FileError String :=
  match String.fromUTF8? bytes with
  | some text => .ok text
  | none => .error .notText

/-- The text of the file that a path leads to. -/
def readText (tree : FileTree) (path : String) : Except FileError String := do
  match ← tree.lookup path with
  | .file bytes => decode bytes
  | .directory _ => .error .isDirectory

/-- The tree with another entry, or none, at a list of names. -/
def put (tree : FileTree) (names : List String) (entry : Option FileEntry) : FileTree :=
  { tree with root := (FileEntry.alter (fun _ => entry) names (some tree.root)).getD tree.root }

/-- The tree with a file at a path, made anew or overwritten; its directory has to be there. -/
def write (tree : FileTree) (path : String) (bytes : ByteArray) : Except FileError FileTree := do
  checkPath path
  let pieces := Path.pieces path
  let named := (pieces.reverse.dropWhile (· == "")).reverse
  let directory ← tree.walk (tree.start path) named.dropLast
  let name := named.getLast?.getD "."
  match tree.root.at? directory with
  | some (.directory entries) =>
    if named.length < pieces.length ∨ name = "." ∨ name = ".." then .error .isDirectory
    else if name.utf8ByteSize > longestName then .error .nameTooLong
    else
      match Entries.find? entries name with
      | some (.directory _) => .error .isDirectory
      | _ => .ok (tree.put (directory ++ [name]) (some (.file bytes)))
  | some (.file _) => .error .notDirectory
  | none => .error .notFound

/-- The names of a path without walking it: `.` stays and `..` goes one up. -/
def plainNames (tree : FileTree) (path : String) : List String :=
  (Path.pieces path).foldl
    (fun names piece =>
      if piece = "" ∨ piece = "." then names
      else if piece = ".." then names.dropLast
      else names ++ [piece])
    (tree.start path)

/-- The tree with a file at a path, with all directories on the way. -/
def withFile (tree : FileTree) (path : String) (bytes : ByteArray) : FileTree :=
  tree.put (tree.plainNames path) (some (.file bytes))

/-- The tree with a directory at a path, with all directories on the way. -/
def withDirectory (tree : FileTree) (path : String) : FileTree :=
  if tree.isDir path then tree else tree.put (tree.plainNames path) (some (.directory []))

/-- The tree without what a path leads to, if it leads to anything. -/
def remove? (tree : FileTree) (path : String) : Option FileTree :=
  match tree.lookup path with
  | .ok _ => some (tree.put (tree.plainNames path) none)
  | .error _ => none

end FileTree

end Quire
