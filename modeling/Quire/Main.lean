import Quire.Command.Reach
import Quire.Template.Language.Engine

/-!
# The program

Copies what a command may look at into a file tree, runs the command on it with the template
language, and prints and writes what the run comes to.
-/

namespace Quire.Command

/-- How to use the program. -/
def usage : String :=
  "Convert document node trees to output markup\n\n" ++
  "Usage: docconv [-v] [-q] COMMAND\n\n" ++
  "Commands:\n" ++
  "  convert INPUT [-o FILE] [OPTIONS]        Convert a JSON node tree, - for standard input\n" ++
  "  resolve NODE_NAME [--explain] [OPTIONS]  Show which template a node kind resolves to\n" ++
  "  backends                                 List built-in backends and template engines\n\n" ++
  "Options:\n" ++
  "  -c, --config FILE            TOML file with the backend and converter options\n" ++
  "  -b, --backend NAME           Output backend\n" ++
  "  -T, --template-dir DIR       Template directory; may be repeated\n" ++
  "  -E, --template-engine NAME   Template engine\n" ++
  "      --template-cache         Cache resolved templates for the whole run\n" ++
  "      --autoescape             Escape HTML in interpolated template values\n"

/-- The beginnings of a path that end before a slash, the shortest first, and the path itself. -/
def beginnings (path : String) : List String :=
  let pieces := Path.pieces path
  (List.range pieces.length).filterMap fun n =>
    let beginning := Text.join "/" (pieces.take (n + 1))
    if beginning.isEmpty then none else some beginning

/-- Adds what is at one path: a directory without its entries, or a file. What cannot be looked at
counts as absent. -/
def copyEntry (files : FileTree) (path : String) : IO FileTree := do
  if ← ((← IO.currentDir) / path).isDir then
    return files.withDirectory path
  else
    match ← (IO.FS.readBinFile path).toBaseIO with
    | .ok bytes => return files.withFile path bytes
    | .error _ => return files

/-- Adds what is at a path and on the way to it. -/
def copyPath (files : FileTree) (path : String) : IO FileTree :=
  (beginnings path).foldlM copyEntry files

/-- Adds a directory with its entries. -/
def copyDirectory (files : FileTree) (path : String) : IO FileTree := do
  let place := (← IO.currentDir) / path
  let files ← copyPath files path
  if ← place.isDir then
    (← place.readDir).foldlM (fun files entry => copyEntry files (Path.join path entry.fileName))
      files
  else
    return files

/-- Runs a command and carries out what it comes to. -/
def Invocation.perform (invocation : Invocation) : IO UInt32 := do
  let workingDir := toString (← IO.currentDir)
  let host := detectHost (← IO.getEnv "DOCCONV_HOST_PLATFORM") workingDir
  let stdin ←
    match invocation with
    | .convert "-" _ _ => (← IO.getStdin).readBinToEnd
    | _ => pure ByteArray.empty
  let names := (Path.pieces workingDir).filter (· ≠ "")
  let named ← invocation.named.foldlM copyPath (FileTree.rooted names)
  let known ← copyPath named (host.resolvePath Host.revealTemplates)
  let compiler := Template.Language.compiler
  let files ← (invocation.searched compiler host known).foldlM copyDirectory known
  let outcome := invocation.run ⟨stdin, compiler, host, files⟩
  IO.print outcome.stdout
  match outcome.report with
  | some report => do
    IO.eprintln ("Error: " ++ report.message)
    match report.cause with
    | some cause => IO.eprintln ("\nCaused by:\n    " ++ cause)
    | none => pure ()
  | none =>
    match invocation.output? with
    | none => pure ()
    | some path =>
      match outcome.files.readText path with
      | .ok text => IO.FS.writeBinFile path text.toUTF8
      | .error _ => pure ()
  return UInt32.ofNat outcome.exit

end Quire.Command

open Quire.Command

/-- Reads the words of the command line and runs the command they stand for. -/
def main (words : List String) : IO UInt32 := do
  match Invocation.read words with
  | .ok invocation => invocation.perform
  | .error .help => IO.print usage; return 0
  | .error .version => IO.print versionLine; return 0
  | .error .usage => IO.eprint usage; return 2
