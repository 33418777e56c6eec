import Quire.Template.Search

/-!
# Conversion errors

Why a node cannot be converted.
-/

namespace Quire

/-- Why a node cannot be converted. -/
inductive ConvertError where
  /-- A template converter stands alone and has no template for the node. -/
  | noTemplate (name backend : String)
  /-- The template for the node is not well formed, in the engine's words. -/
  | badTemplate (name backend path cause : String)
  /-- The template for the node cannot be rendered, in the engine's words. -/
  | render (name backend path cause : String)
  /-- The backend has no converter for the node. -/
  | noConverter (backend name : String)
  /-- The converter does not know the kind of the node. -/
  | unsupportedNode (backend name : String)
  /-- The template for the node cannot be read. -/
  | lookup (name backend : String) (cause : Template.LookupError)

/-- The wording of a conversion error. -/
def ConvertError.message : ConvertError → String
  | noTemplate name backend =>
    "Could not find a custom template to handle transform: " ++ name ++ " (backend: " ++ backend ++
      ")"
  | badTemplate name backend path cause =>
    "Failed to compile template for " ++ name ++ " (backend: " ++ backend ++ ", " ++ path ++
      "): " ++ cause
  | render name backend path cause =>
    "Failed to render template for " ++ name ++ " (backend: " ++ backend ++ ", " ++ path ++
      "): " ++ cause
  | noConverter backend name =>
    "No converter available for backend '" ++ backend ++ "' to handle " ++ name
  | unsupportedNode backend name =>
    "The " ++ backend ++ " converter does not support node '" ++ name ++ "'"
  | lookup name backend cause =>
    "Failed to look up template for " ++ name ++ " (backend: " ++ backend ++ "): " ++ cause.message

end Quire
