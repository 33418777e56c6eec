import Quire.Command.Arguments
import Quire.Files.Path
import Quire.Options.Basic
import Quire.Toml.Reader

/-!
# Settings

The backend and options of a run, from a configuration file and the command line. Relative paths in
the file are relative to the directory of the file. The command line wins, and its template
directories replace those of the file.
-/

namespace Quire.Command

/-- What a configuration file says. -/
structure Config where
  backend : Option String := none
  options : Options := {}
deriving DecidableEq

namespace Config

/-- A member that has to be a text. -/
def text? (key : String) (members : List (String × Toml)) : Option (Option String) :=
  match members.lookup key with
  | none => some none
  | some (.string s) => some (some s)
  | some _ => none

/-- A member that has to be a truth value; it is false by default. -/
def flag? (key : String) (members : List (String × Toml)) : Option Bool :=
  match members.lookup key with
  | none => some false
  | some (.bool b) => some b
  | some _ => none

/-- The texts of a list of values, if they are all texts. -/
def texts? (items : List Toml) : Option (List String) :=
  items.mapM fun
    | .string s => some s
    | _ => none

/-- Template directories from a text or an array of texts. -/
def directories? (members : List (String × Toml)) : Option (Option (List String)) :=
  match members.lookup "template-dirs" with
  | none => some none
  | some (.string dir) => some (some [dir])
  | some (.array items) => (texts? items).map some
  | some _ => none

/-- The configuration that the members of a document hold; other members are ignored. -/
def ofMembers? (members : List (String × Toml)) : Option Config := do
  let backend ← text? "backend" members
  let directories ← directories? members
  let engine ← text? "template-engine" members
  let cache ← flag? "template-cache" members
  let baseDir ← text? "base-dir" members
  let autoescape ← flag? "autoescape" members
  let defaults : Options := {}
  some
    { backend := backend
      options :=
        { templateDirs := directories
          templateEngine := engine.getD defaults.templateEngine
          templateCache := cache
          baseDir := baseDir
          autoescape := autoescape } }

/-- The configuration with its relative paths below a directory. -/
def anchor (directory : String) (config : Config) : Config :=
  { config with
    options :=
      { config.options with
        templateDirs := config.options.templateDirs.map (·.map (Path.join directory))
        baseDir := config.options.baseDir.map (Path.join directory) } }

/-- The configuration in the text of the file at a path. -/
def parse (path text : String) : Option Config := do
  let members ← Toml.parse text
  let config ← ofMembers? members
  some (config.anchor (Path.parent path))

end Config

/-- The backend and options of a run. -/
structure Settings where
  backend : String
  options : Options

/-- The backend when none is given. -/
def defaultBackend : String := "html5"

/-- A configuration with the options of the command line. -/
def Settings.merge (config : Config) (arguments : ConverterArguments) : Settings where
  backend := (arguments.backend.or config.backend).getD defaultBackend
  options :=
    { config.options with
      templateDirs :=
        if arguments.templateDirs.isEmpty then config.options.templateDirs
        else some arguments.templateDirs
      templateEngine := arguments.templateEngine.getD config.options.templateEngine
      templateCache := config.options.templateCache || arguments.templateCache
      autoescape := config.options.autoescape || arguments.autoescape }

end Quire.Command
