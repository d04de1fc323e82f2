import ContentClasses.Diagnostics.Reader
import ContentClasses.Settings.Fault
import ContentClasses.Settings.Layer
import ContentClasses.Settings.Shape

/-! Typed settings out of untyped ones. -/

namespace ContentClasses

/-- A reader of one untyped setting. -/
abbrev Decode (α : Type) : Type := ReaderT Setting (Except SettingsFault) α

/-- How a setting is named where another one was expected. -/
def Setting.found : Setting → Found
  | .scalar .nothing _ => .nothing
  | .scalar (.boolean value) _ => .boolean value
  | .scalar (.integer value) _ => .integer value
  | .scalar (.float value) _ => .float value
  | .scalar (.text value) _ => .text value
  | .list _ _ => .list
  | .table _ _ => .table

/-- Where a setting came from. -/
def Setting.origin : Setting → Option String
  | .scalar _ origin | .list _ origin | .table _ origin => origin

/-- A key as part of what stands under an outer one. -/
def keyWithin (outer : String) (key : Option String) : String :=
  match key with
  | none => outer
  | some key => if key.toList.head? = some '[' then outer ++ key else outer ++ "." ++ key

/-- A fault as it looks from outside the setting under a key. -/
def SettingsFault.within (outer : String) : SettingsFault → SettingsFault
  | .notText found key origin => .notText found (some (keyWithin outer key)) origin
  | fault => fault

namespace Decode

/-- Reads the setting under a key or an index. -/
def part {α : Type} (name : String) (decode : Decode α) (setting : Setting) :
    Except SettingsFault α :=
  (decode.run setting).mapError (·.within name)

/-- The name of a position in a list. -/
def indexName (index : Nat) : String := "[" ++ toString index ++ "]"

/-- Reads a text, for which any scalar can stand. -/
def text : Decode String := fun setting =>
  match setting with
  | .scalar (.text value) _ => .ok value
  | .scalar (.boolean value) _ => .ok (if value then "true" else "false")
  | .scalar (.integer value) _ => .ok (toString value)
  | .scalar (.float value) _ => .ok value.positional
  | other => .error (.notText other.found none other.origin)

/-- Reads the texts of a list from an index on. -/
def textsFrom : (index : Nat) → List Setting → Except SettingsFault (List String)
  | _, [] => .ok []
  | index, item :: rest => do
    let first ← part (indexName index) text item
    let others ← textsFrom (index + 1) rest
    return first :: others

/-- Reads a list of texts. -/
def texts : Decode (List String) := fun setting =>
  match setting with
  | .list items _ => textsFrom 0 items
  | other => .error (.wrongType other.found "a sequence")

/-- The level with a name in any case. -/
def levelNamed (name : String) : Except SettingsFault Level :=
  match levelNames.lookup (String.ofList (name.toList.map Char.toLower)) with
  | some level => .ok level
  | none => .error (.unknownLevel name)

/-- Reads a level, by its name or as the only key of a table. -/
def level : Decode Level := fun setting =>
  match setting with
  | .scalar (.text name) _ => levelNamed name
  | .table [(name, _)] _ => levelNamed name
  | _ => .error .notLevel

/-- Reads nothing as nothing, and any other setting by a given reader. -/
def optional {α : Type} (decode : Decode α) : Decode (Option α) := fun setting =>
  match setting with
  | .scalar .nothing _ => .ok none
  | other => (decode.run other).map some

/-- Reads the fields of a group that are in a table. -/
def tableFields {α : Type} (entries : List (String × Setting)) :
    List (GroupField Decode α) → α → Except SettingsFault α
  | [], group => .ok group
  | field :: rest, group =>
    match entries.lookup field.key with
    | none => tableFields entries rest group
    | some setting => do
      let change ← part field.key field.change setting
      tableFields entries rest (change group)

/-- Reads the fields of a group that is a list, in their order and as far as the list goes. -/
def listFields {α : Type} : (index : Nat) → List Setting →
    List (GroupField Decode α) → α → Except SettingsFault α
  | index, item :: items, field :: rest, group => do
    let change ← part (indexName index) field.change item
    listFields (index + 1) items rest (change group)
  | _, _, _, group => .ok group

/-- Reads a group, with its defaults for what is not given. -/
def group {α : Type} (name : String) (fields : List (GroupField Decode α)) (blank : α) :
    Decode α := fun setting =>
  match setting with
  | .table entries _ => tableFields entries fields blank
  | .list items _ => listFields 0 items fields blank
  | other => .error (.wrongType other.found ("struct " ++ name))

end Decode

instance : SettingsSource Decode where
  text := Decode.text
  path := Decode.text
  words := Decode.texts
  level := Decode.level
  optional := Decode.optional
  group := Decode.group

end ContentClasses
