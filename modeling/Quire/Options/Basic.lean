/-!
# Converter options

What a converter is made with besides its backend.
-/

namespace Quire

/-- Options for making a converter. -/
structure Options where
  /-- The template directories in order; without them there is no template layer at all. -/
  templateDirs : Option (List String) := none
  templateEngine : String := "tera"
  /-- Whether templates are remembered as long as the converter lives. -/
  templateCache : Bool := false
  /-- What relative template directories are relative to, instead of the working directory. -/
  baseDir : Option String := none
  /-- Whether templates escape the texts that they print. -/
  autoescape : Bool := false
deriving DecidableEq

end Quire
