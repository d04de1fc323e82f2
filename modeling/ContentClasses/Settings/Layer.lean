import ContentClasses.Association
import ContentClasses.Toml.Document

/-! Untyped settings as TOML files and the environment give them, and how later ones go over earlier
ones. -/

namespace ContentClasses

/-- A value without parts. -/
inductive Scalar where
  | nothing
  | boolean (value : Bool)
  | integer (value : Int)
  | float (value : Binary64)
  | text (value : String)
  deriving DecidableEq, Inhabited

/-- An untyped setting, with where it came from as far as that is known. -/
inductive Setting where
  | scalar (value : Scalar) (origin : Option String)
  | list (items : List Setting) (origin : Option String)
  | table (entries : List (String × Setting)) (origin : Option String)
  deriving Inhabited

namespace Setting

/-- A setting that was never given. -/
def absent : Setting := .scalar .nothing none

mutual

/-- The setting that a TOML value gives. -/
def ofToml (origin : String) : Toml.Value → Setting
  | .string value => .scalar (.text value) (some origin)
  | .integer value => .scalar (.integer value) (some origin)
  | .float value => .scalar (.float value) (some origin)
  | .boolean value => .scalar (.boolean value) (some origin)
  | .dateTime text => .scalar (.text text) (some origin)
  | .array items => .list (ofTomlItems origin items) (some origin)
  | .table entries => .table (ofTomlEntries origin entries) (some origin)

/-- The settings that the items of a TOML array give. -/
def ofTomlItems (origin : String) : List Toml.Value → List Setting
  | [] => []
  | item :: rest => ofToml origin item :: ofTomlItems origin rest

/-- The settings that the entries of a TOML table give. -/
def ofTomlEntries (origin : String) : List (String × Toml.Value) → List (String × Setting)
  | [] => []
  | (key, value) :: rest => (key, ofToml origin value) :: ofTomlEntries origin rest

end

/-- The entries and the origin of a table, in place of which anything else counts as a new one. -/
def asTable : Setting → List (String × Setting) × Option String
  | .table entries origin => (entries, origin)
  | _ => ([], none)

/-- The items and the origin of a list, in place of which anything else counts as a new one. -/
def asList : Setting → List Setting × Option String
  | .list items origin => (items, origin)
  | _ => ([], none)

end Setting

/-- A character of a key in lower case, as far as it can make a letter of a known key. -/
def lowerKeyChar (c : Char) : Char := if c = '\u212A' then 'k' else c.toLower

/-- A key in the case in which keys are compared. -/
def lowerKey (key : String) : String := String.ofList (key.toList.map lowerKeyChar)

mutual

/-- Puts a setting over what stands under a key: tables go into each other, and all else replaces.
-/
def Setting.onto (key : String) : Setting → List (String × Setting) → List (String × Setting)
  | .table [] _, entries =>
    -- A table without entries does not even replace a value that is no table.
    Association.put (lowerKey key) ((entries.lookup (lowerKey key)).getD (.table [] none)) entries
  | .table (first :: rest) _, entries =>
    let (inner, origin) := ((entries.lookup (lowerKey key)).getD (.table [] none)).asTable
    Association.put (lowerKey key) (.table (settingsOnto (first :: rest) inner) origin) entries
  | setting, entries => Association.put (lowerKey key) setting entries

/-- Puts settings over those of a table, one after the other. -/
def settingsOnto : List (String × Setting) → List (String × Setting) → List (String × Setting)
  | [], entries => entries
  | (key, setting) :: rest, entries => settingsOnto rest (setting.onto key entries)

end

end ContentClasses
