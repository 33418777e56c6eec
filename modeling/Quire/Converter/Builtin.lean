import Quire.Backend
import Quire.Converter.Basic
import Quire.Markup.DocBook
import Quire.Markup.Html5
import Quire.Troff.ManPage

/-!
# Built-in converters

The converters that render each kind of nodes by rules of their own. They look at no files and keep
no memory.
-/

namespace Quire

/-- A format with rules for every kind of nodes. -/
inductive Builtin where
  | html5
  | docBook (version : DocBook.Version)
  | manPage
deriving DecidableEq

namespace Builtin

/-- The backend of a format. -/
def backend : Builtin → Backend
  | html5 => .html5
  | docBook .v5 => .docbook5
  | docBook .v45 => .docbook45
  | manPage => .manpage

/-- The format of a backend, if it has one. -/
def ofBackend? : Backend → Option Builtin
  | .html5 => some html5
  | .docbook5 => some (docBook .v5)
  | .docbook45 => some (docBook .v45)
  | .manpage => some manPage
  | .revealjs => none
  | .custom _ => none

/-- The format of a backend is for that backend. -/
theorem backend_of_ofBackend? {backend : Backend} {format : Builtin}
    (known : ofBackend? backend = some format) : format.backend = backend := by
  cases backend <;> cases known <;> rfl

/-- A node of the given kind around its converted children. Every format lists the same eighteen
names and renders all of them: none has a kind that another one lacks. -/
def render : Builtin → Kind → Node → String → String
  | html5 => Html5.render
  | docBook version => DocBook.render version
  | manPage => ManPage.render

/-- The output for one node. The kind is looked up by its name once for all formats, since their
lists of names are one list; a name outside of it has no output in any format. -/
def output (format : Builtin) (task : Task) : Except ConvertError String :=
  match Kind.ofName? task.name with
  | some kind => .ok (format.render kind task.node task.content)
  | none => .error (.unsupportedNode format.backend.name task.name)

/-- The converter of a format. -/
def converter {μ : Type} (format : Builtin) : Converter μ :=
  .ofHandles format.backend.name (fun _ name => return Kind.isKnown name)
    (fun _ task => return format.output task)

/-- A node of a known kind is converted by the rendering of that kind. -/
theorem run_convert {μ : Type} (format : Builtin) (task : Task) (known : task.name ∈ Kind.names)
    (files : FileTree) (memory : μ) :
    ∃ kind, Kind.ofName? task.name = some kind ∧
      (format.converter.convert files task).run memory =
        (.ok (format.render kind task.node task.content), memory) := by
  obtain ⟨kind, named⟩ := Kind.exists_ofName? known
  have output : format.output task = .ok (format.render kind task.node task.content) := by
    rw [Builtin.output, named]
  exact ⟨kind, named, congrArg (·, memory) output⟩

end Builtin

end Quire
