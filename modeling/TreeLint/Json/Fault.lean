import TreeLint.Json.Value
import TreeLint.Text.Quoted

/-!
# Faults of JSON input

A text may be malformed, or it may be well formed and say something that its
reader did not ask for.  The second sort of fault names what was found and
what was expected.
-/

namespace TreeLint

namespace Json

/-- What was found in place of the expected. -/
inductive Found where
  | null
  | boolean (value : Bool)
  | integer (value : Int)
  | real (written : String)
  | text (content : String)
  | sequence
  | table
deriving DecidableEq, Repr

/-- The description of a found value. -/
def Found.describe : Found → String
  | .null => "null"
  | .boolean value => "boolean `" ++ (if value then "true" else "false") ++ "`"
  | .integer value => "integer `" ++ toString value ++ "`"
  | .real written => "floating point `" ++ written ++ "`"
  | .text content => "string " ++ Text.quote content
  | .sequence => "sequence"
  | .table => "map"

/-- Why a text was not accepted. -/
inductive Fault where
  /-- The text is not JSON. -/
  | malformed
  | invalidType (found : Found) (expected : String)
  | invalidValue (value : Int) (expected : String)
  /-- A record written as an array of too few elements. -/
  | invalidLength (length : Nat) (record : String) (size : Nat)
  | missingField (field : String)
  | duplicateField (field : String)
  | unknownVariant (name : String) (variants : List String)
deriving DecidableEq, Repr

/-- The wording of a fault. -/
def Fault.message : Fault → String
  | .malformed => "syntax error"
  | .invalidType found expected =>
    "invalid type: " ++ found.describe ++ ", expected " ++ expected
  | .invalidValue value expected =>
    "invalid value: integer `" ++ toString value ++ "`, expected " ++ expected
  | .invalidLength length record size =>
    "invalid length " ++ toString length ++ ", expected struct " ++ record ++ " with " ++
      toString size ++ " elements"
  | .missingField field => "missing field `" ++ field ++ "`"
  | .duplicateField field => "duplicate field `" ++ field ++ "`"
  | .unknownVariant name variants =>
    "unknown variant `" ++ name ++ "`, expected one of " ++
      String.intercalate ", " (variants.map fun variant => "`" ++ variant ++ "`")

end Json

end TreeLint
