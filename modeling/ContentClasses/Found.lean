import ContentClasses.Number.Shortest
import ContentClasses.Text.Quoted

/-! What stands in a document where something else was expected, and its description. -/

namespace ContentClasses

/-- A value that was found in place of the expected one. -/
inductive Found where
  | nothing
  | boolean (value : Bool)
  | integer (value : Int)
  | float (value : Binary64)
  | text (value : String)
  | list
  | table
  deriving DecidableEq, Repr

/-- How a kind of document words what was found. -/
structure FoundWording where
  /-- The word for the empty value. -/
  nothing : String
  /-- The text of a number with fraction. -/
  float : Binary64 → String

/-- The description of a found value. -/
def Found.describe (wording : FoundWording) : Found → String
  | .nothing => wording.nothing
  | .boolean value => "boolean `" ++ (if value then "true" else "false") ++ "`"
  | .integer value => "integer `" ++ toString value ++ "`"
  | .float value => "floating point `" ++ wording.float value ++ "`"
  | .text value => "string " ++ quoted value
  | .list => "sequence"
  | .table => "map"

end ContentClasses
