import Quire.Command.Run

/-!
# What a command reaches

The paths that a command may look at, so that a file tree need hold nothing else: the files that
its words name, and the places where it searches templates.
-/

namespace Quire.Command

/-- The way a command makes its converter, if it makes one. -/
def Invocation.converter? : Invocation → Option ConverterArguments
  | .convert _ _ converter => some converter
  | .resolve _ _ converter => some converter
  | .backends => none

/-- The file that a command writes. -/
def Invocation.output? : Invocation → Option String
  | .convert _ output _ => output
  | .resolve .. => none
  | .backends => none

/-- The file that a command reads its document from. -/
def Invocation.input? : Invocation → Option String
  | .convert input _ _ => if input = "-" then none else some input
  | .resolve .. => none
  | .backends => none

/-- The paths that the words of a command name. -/
def Invocation.named (invocation : Invocation) : List String :=
  (invocation.converter?.bind (·.config)).toList ++ invocation.input?.toList ++
    invocation.output?.toList

/-- Every place inside a template directory that may hold templates. -/
def placesBelow (search : Template.Search) (directory : String) : List String :=
  let engineDir := Path.join directory search.engine
  [directory, engineDir, Path.join engineDir search.backend, Path.join directory search.backend]

/-- The directories whose files may be templates of a command, given a tree with its configuration
and the templates that are installed next to a program. -/
def Invocation.searched (invocation : Invocation) (compiler : Template.Compiler) (host : Host)
    (files : FileTree) : List String :=
  match invocation.converter? with
  | none => []
  | some arguments =>
    match loadSettings arguments files with
    | .error _ => []
    | .ok settings =>
      match Assembly.layer? compiler host files (Backend.ofName settings.backend)
          settings.options with
      | .ok (some layer) => layer.search.directories.flatMap (placesBelow layer.search)
      | _ => []

end Quire.Command
