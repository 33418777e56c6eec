import Quire.Converter.Builtin
import Quire.Converter.Registry
import Quire.Host
import Quire.Template.Layer

/-!
# Assembly

Making the converter for a backend: a registered one, else the built-in one of the backend, with a
template layer in front of it where template directories are given.
-/

namespace Quire

/-- A template engine that does not exist. -/
structure UnknownEngine where
  name : String
deriving DecidableEq

/-- The engines there are, as they are named in a complaint. -/
def UnknownEngine.available : String :=
  Text.join ", " Template.Engine.names

/-- The complaint about an unknown engine. -/
def UnknownEngine.message (e : UnknownEngine) : String :=
  "Unknown template engine '" ++ e.name ++ "' (available: " ++ available ++ ")"

/-- What converters are made from: the registered ones, the compiler of the template language and
the host. -/
structure Assembly (κ : Type) where
  registry : Registry (Template.Memory κ)
  compiler : Template.Compiler
  host : Host

namespace Assembly

variable {κ : Type}

/-- An assembly without registered converters. -/
def on (compiler : Template.Compiler) (host : Host) : Assembly κ :=
  ⟨Dictionary.empty, compiler, host⟩

/-- The built-in converter of a backend. -/
def builtin? {μ : Type} (backend : Backend) : Option (Converter μ) :=
  (Builtin.ofBackend? backend).map (·.converter)

/-- The template layer for options, if they ask for one. -/
def layer? (compiler : Template.Compiler) (host : Host) (files : FileTree) (backend : Backend)
    (options : Options) : Except UnknownEngine (Option Template.Layer) :=
  let options := host.fillIn files backend options
  match options.templateDirs with
  | none => .ok none
  | some directories =>
    match Template.Engine.ofName? compiler options.templateEngine options.autoescape with
    | none => .error ⟨options.templateEngine⟩
    | some engine =>
      .ok (some (.inDirectories backend.name directories (host.templateBase options) engine
        options.templateCache))

/-- Makes the converter for a backend that is not registered; a template layer remembers under the
number `id`. -/
def make (compiler : Template.Compiler) (host : Host) (files : FileTree) (id : Nat)
    (backend : Backend) (options : Options) :
    Except UnknownEngine (Converter (Template.Memory κ)) := do
  match ← layer? compiler host files backend options with
  | none => return (builtin? backend).getD (.unsupported backend.name)
  | some layer => return .composite backend.name (layer.converter id) (builtin? backend)

/-- Makes the converter for a backend given by name or alias. -/
def create (assembly : Assembly κ) (files : FileTree) (id : Nat) (backend : String)
    (options : Options) : Except UnknownEngine (Converter (Template.Memory κ)) :=
  match assembly.registry.get? backend with
  | some registration => .ok (registration.converterFor backend options)
  | none => make assembly.compiler assembly.host files id (Backend.ofName backend) options

end Assembly

end Quire
