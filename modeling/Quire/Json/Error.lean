import Quire.Json.Basic
import Quire.Text.Quoted

/-!
# Reading errors

Why a text cannot be read as a value of a given type, and the wording of the causes that have one.
-/

namespace Quire.Json

/-- What stands in a text where something else is expected. -/
inductive Found where
  | null
  | bool (value : Bool)
  | int (value : Int)
  | double (value : Binary64)
  | string (value : String)
  | array
  | object

/-- A description of what was found. -/
def Found.describe : Found → String
  | .null => "null"
  | .bool true => "boolean `true`"
  | .bool false => "boolean `false`"
  | .int i => "integer `" ++ String.ofList (printInt i) ++ "`"
  | .double x => "floating point `" ++ numberLayout.write x ++ "`"
  | .string s => "string " ++ Text.quoted s
  | .array => "sequence"
  | .object => "map"

/-- How a well-formed text fails to be a value of the expected type. -/
inductive Misfit where
  /-- A value of another type. -/
  | wrongType (found : Found) (expected : String)
  /-- A record written as an array without items. -/
  | noItems (record : String) (members : Nat)
  /-- A record without a member that it must have. -/
  | missingMember (name : String)
  /-- A record with two members of one name. -/
  | repeatedMember (name : String)
  /-- A value that is none of the forms of a type. -/
  | noForm (type : String)

/-- The wording of a misfit. -/
def Misfit.message : Misfit → String
  | .wrongType found expected => "invalid type: " ++ found.describe ++ ", expected " ++ expected
  | .noItems record members =>
    "invalid length 0, expected " ++ record ++ " with " ++
      Decimal.text members ++ " elements"
  | .missingMember name => "missing field `" ++ name ++ "`"
  | .repeatedMember name => "duplicate field `" ++ name ++ "`"
  | .noForm type => "data did not match any variant of untagged enum " ++ type

/-- Why a text cannot be read. -/
inductive ReadError where
  /-- The text ends too early. -/
  | endOfText
  /-- The text is not JSON, nests too deeply, or holds a number out of range. -/
  | malformed
  /-- The text is JSON, but not of the expected type. -/
  | misfit (cause : Misfit)

/-- Reads a value from the start of a text and gives the rest of the text. -/
abbrev Reader (α : Type) := List Char → Except ReadError (α × List Char)

end Quire.Json
