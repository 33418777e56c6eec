import Quire.Json.Basic

/-!
# Template engines

What a converter knows of a template language: its name, the extension of its files, and how a
source is compiled into something that renders values. The compiler of the language itself is a
parameter.
-/

namespace Quire.Template

/-- A compiled template: the output for a value, or the engine's words on why there is none. -/
abbrev Compiled := Json → Except String String

/-- A template language: `compile` takes the name of a template and its source, and fails with the
engine's words where the source is refused. Compiling may have effects in a monad, so that a record
can be kept of it. -/
structure Engine (m : Type → Type := Id) where
  name : String
  extension : String
  compile : String → String → m (Except String Compiled)

/-- A compiler for the one template language there is an engine for, with escaping of printed texts
or without. -/
abbrev Compiler := Bool → String → String → Except String Compiled

namespace Engine

/-- The name of the template language, which is also the extension of its files. -/
def teraName : String := "tera"

/-- The engine over a compiler for the language. -/
def tera (compiler : Compiler) (escaping : Bool) : Engine where
  name := teraName
  extension := teraName
  compile := compiler escaping

/-- The engine of a name. -/
def ofName? (compiler : Compiler) (name : String) (escaping : Bool) : Option Engine :=
  if name = teraName then some (tera compiler escaping) else none

/-- The names of all engines. -/
def names : List String :=
  [teraName]

end Engine

end Quire.Template
