import Quire.Json.Record
import Quire.Options.Basic

/-!
# Options as JSON

Options are written as an object with all members in a fixed order. Template directories are
written as an array and may be read from a single text.
-/

namespace Quire.Options

/-- A text, or null in its absence. -/
def optionalText : Option String → Json
  | none => .null
  | some s => .string s

/-- The object of options. -/
def toJson (options : Options) : Json :=
  .object
    [ ("template-dirs",
        match options.templateDirs with
        | none => .null
        | some dirs => .array (dirs.map .string)),
      ("template-engine", .string options.templateEngine),
      ("template-cache", .bool options.templateCache),
      ("base-dir", optionalText options.baseDir),
      ("autoescape", .bool options.autoescape) ]

/-- The texts of a list of values, if they are all texts. -/
def texts? (items : List Json) : Option (List String) :=
  items.mapM fun
    | .string s => some s
    | _ => none

/-- Template directories from a text or an array of texts. -/
def directories? : Json → Option (List String)
  | .string dir => some [dir]
  | .array items => texts? items
  | _ => none

/-- Reads template directories with a budget of nested arrays and objects. -/
def readDirectories (depth : Nat) : Json.Reader (List String) := fun cs => do
  let (value, rest) ← Json.readValue depth cs
  match directories? value with
  | some dirs => .ok (dirs, rest)
  | none => .error (.misfit (.noForm "TemplateDirsRepr"))

/-- How options are read, with a budget of arrays and objects inside them. -/
def recordType (depth : Nat) : Json.RecordType Options Options where
  title := "struct ConverterOptions"
  members :=
    [ ⟨"template-dirs", fun draft cs => do
        let (value, rest) ← Json.readOptional (readDirectories depth) cs
        .ok ({ draft with templateDirs := value }, rest)⟩,
      ⟨"template-engine", fun draft cs => do
        let (value, rest) ← Json.readString cs
        .ok ({ draft with templateEngine := value }, rest)⟩,
      ⟨"template-cache", fun draft cs => do
        let (value, rest) ← Json.readBool cs
        .ok ({ draft with templateCache := value }, rest)⟩,
      ⟨"base-dir", fun draft cs => do
        let (value, rest) ← Json.readOptional (Json.readStringAs "path string") cs
        .ok ({ draft with baseDir := value }, rest)⟩,
      ⟨"autoescape", fun draft cs => do
        let (value, rest) ← Json.readBool cs
        .ok ({ draft with autoescape := value }, rest)⟩ ]
  finish _ draft := .ok draft

/-- Reads a text that holds options. -/
def parse (text : String) : Except Json.ReadError Options :=
  Json.parseWith ((recordType (Json.nestingLimit - 1)).read {}) text

end Quire.Options
