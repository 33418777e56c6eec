import Quire.Backend
import Quire.Files.Tree
import Quire.Options.Basic
import Quire.Text.Case

/-!
# Hosts

Where a converter runs: the kind of platform and the directory that relative paths are relative
to. One default depends on it, the templates for reveal.js that are installed next to a program.
-/

namespace Quire

/-- A kind of host. -/
inductive Platform where
  | native
  | node
  | nodeElectron
  | browser
deriving DecidableEq

namespace Platform

/-- The canonical name. -/
def name : Platform → String
  | native => "native"
  | node => "node"
  | nodeElectron => "node-electron"
  | browser => "browser"

/-- Whether modules are installed next to the working directory. -/
def isNode : Platform → Bool
  | node | nodeElectron => true
  | native | browser => false

/-- The platform of a name or alias, in capital or small letters. -/
def ofName? (s : String) : Option Platform :=
  let small := Text.lower s
  if small = "native" then some native
  else if small = "node" then some node
  else if small = "node-electron" ∨ small = "electron" then some nodeElectron
  else if small = "browser" then some browser
  else none

/-- The complaint about a name that is no platform's. -/
def unknownMessage (s : String) : String :=
  "Unknown host platform: " ++ s

end Platform

/-- A platform with the directory that relative paths are relative to. -/
structure Host where
  platform : Platform
  workingDir : String

namespace Host

/-- A path as seen from the working directory. -/
def resolvePath (host : Host) (path : String) : String :=
  Path.join host.workingDir path

/-- Where the reveal.js package keeps its templates. -/
def revealTemplates : String :=
  "node_modules/asciidoctor-reveal.js/templates"

/-- Options with the defaults that depend on the host: reveal.js on a platform with modules takes
the installed templates if no template directories are given. -/
def fillIn (host : Host) (files : FileTree) (backend : Backend) (options : Options) : Options :=
  let templates := host.resolvePath revealTemplates
  if backend = .revealjs ∧ host.platform.isNode ∧ options.templateDirs.isNone ∧
      files.isDir templates then
    { options with templateDirs := some [templates] }
  else options

/-- The directory that relative template directories are relative to. -/
def templateBase (host : Host) (options : Options) : String :=
  match options.baseDir with
  | some dir => host.resolvePath dir
  | none => host.workingDir

end Host

end Quire
