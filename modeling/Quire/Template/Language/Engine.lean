import Quire.Template.Engine
import Quire.Template.Language.Reader
import Quire.Template.Language.Render

/-!
# The template language as an engine
-/

namespace Quire.Template.Language

/-- The compiler of the language. It has no words for a source that it refuses. -/
def compiler : Compiler := fun escaping template source =>
  match parse source with
  | none => .error ""
  | some pieces => .ok fun value =>
    (render template escaping pieces value).mapError (·.message)

end Quire.Template.Language
