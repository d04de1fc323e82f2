import ContentClasses.Diagnostics.Reader
import ContentClasses.Json.Value
import ContentClasses.Settings.Layer
import ContentClasses.Settings.Shape

/-! Settings in JSON: untyped ones as files give them, and typed ones as they are read directly. -/

namespace ContentClasses

namespace Setting

/-- The number that a JSON integer gives: a float beyond 63 bits. -/
def jsonInteger (value : Int) : Scalar :=
  if value < 0x8000000000000000 then .integer value else .float (.ofRatio false value.toNat 1)

mutual

/-- The setting that a JSON value gives. -/
def ofJson (origin : String) : Json.Value → Setting
  | .null => .scalar .nothing (some origin)
  | .boolean value => .scalar (.boolean value) (some origin)
  | .integer value => .scalar (jsonInteger value) (some origin)
  | .float value => .scalar (.float value) (some origin)
  | .string value => .scalar (.text value) (some origin)
  | .list items => .list (ofJsonItems origin items) (some origin)
  | .object members => .table (Association.lastOfEach (ofJsonMembers origin members)) (some origin)

/-- The settings that the items of a JSON list give. -/
def ofJsonItems (origin : String) : List Json.Value → List Setting
  | [] => []
  | item :: rest => ofJson origin item :: ofJsonItems origin rest

/-- The settings that the members of a JSON object give. -/
def ofJsonMembers (origin : String) : List (String × Json.Value) → List (String × Setting)
  | [] => []
  | (key, value) :: rest => (key, ofJson origin value) :: ofJsonMembers origin rest

end

end Setting

open Json

/-- Typed settings are read from JSON values with all types as they should be. -/
instance : SettingsSource Scan where
  text := Scan.text
  path := Scan.text "path string"
  words := Scan.list Scan.text
  level := Scan.choice levelNames
  optional := Scan.optional
  group name fields :=
    Scan.record name (fields.map fun field => ⟨field.key, .optional, field.change⟩)

end ContentClasses
