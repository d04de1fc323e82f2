import ContentClasses.Proofs.Settings.Shapes

/-! The leaves of the settings, each with the names that lead to it: a leaf is read on its own. -/

namespace ContentClasses

/-- The leaves that are texts or paths. -/
inductive TextLeaf where
  | directory
  | package
  | string
  | number
  | dateTime
  | list
  | option
  | asset
  | taxonomy
  | contentItem
  | element
  | contentType
  | keywordEscape
  | indent
  deriving DecidableEq, Repr

namespace TextLeaf

/-- The names that lead to a leaf. -/
def path : TextLeaf → List String
  | directory => ["output", "directory"]
  | package => ["output", "package"]
  | string => ["render", "types", "string"]
  | number => ["render", "types", "number"]
  | dateTime => ["render", "types", "date_time"]
  | list => ["render", "types", "list"]
  | option => ["render", "types", "option"]
  | asset => ["render", "types", "asset"]
  | taxonomy => ["render", "types", "taxonomy"]
  | contentItem => ["render", "types", "content_item"]
  | element => ["render", "annotations", "element"]
  | contentType => ["render", "annotations", "content_type"]
  | keywordEscape => ["render", "keyword_escape"]
  | indent => ["render", "indent"]

/-- The value of a leaf. -/
def of (settings : Settings) : TextLeaf → String
  | directory => settings.output.directory
  | package => settings.output.package
  | string => settings.render.types.string
  | number => settings.render.types.number
  | dateTime => settings.render.types.dateTime
  | list => settings.render.types.list
  | option => settings.render.types.option
  | asset => settings.render.types.asset
  | taxonomy => settings.render.types.taxonomy
  | contentItem => settings.render.types.contentItem
  | element => settings.render.annotations.element
  | contentType => settings.render.annotations.contentType
  | keywordEscape => settings.render.keywordEscape
  | indent => settings.render.indent

/-- The settings with another name of a type. -/
def putType (settings : Settings) (change : Java.TypeNames → Java.TypeNames) : Settings :=
  { settings with render := { settings.render with types := change settings.render.types } }

/-- The settings with another value at a leaf. -/
def put (text : String) (settings : Settings) : TextLeaf → Settings
  | directory => { settings with output := { settings.output with directory := text } }
  | package => { settings with output := { settings.output with package := text } }
  | string => putType settings ({ · with string := text })
  | number => putType settings ({ · with number := text })
  | dateTime => putType settings ({ · with dateTime := text })
  | list => putType settings ({ · with list := text })
  | option => putType settings ({ · with option := text })
  | asset => putType settings ({ · with asset := text })
  | taxonomy => putType settings ({ · with taxonomy := text })
  | contentItem => putType settings ({ · with contentItem := text })
  | element =>
    { settings with render := { settings.render with
        annotations := { settings.render.annotations with element := text } } }
  | contentType =>
    { settings with render := { settings.render with
        annotations := { settings.render.annotations with contentType := text } } }
  | keywordEscape => { settings with render := { settings.render with keywordEscape := text } }
  | indent => { settings with render := { settings.render with indent := text } }

end TextLeaf

/-- The leaves of the settings. -/
inductive Leaf where
  | text (leaf : TextLeaf)
  | schema
  | acronyms
  | level (kind : FindingKind)
  deriving DecidableEq, Repr

namespace Leaf

/-- The key of the level of a kind of finding. -/
def levelKey : FindingKind → String
  | .unsupportedElement => "unsupported_element"
  | .fieldNameCollision => "field_name_collision"
  | .malformedIdentifier => "malformed_identifier"
  | .classNameCollision => "class_name_collision"

/-- The names that lead to a leaf. -/
def path : Leaf → List String
  | text leaf => leaf.path
  | schema => ["schema", "path"]
  | acronyms => ["codegen", "naming", "acronyms"]
  | level kind => ["codegen", "diagnostics", levelKey kind]

/-- The type of the values of a leaf. -/
def Value : Leaf → Type
  | text _ => String
  | schema => Option String
  | acronyms => WordSet
  | level _ => Level

/-- The reader of a leaf. -/
def read : (leaf : Leaf) → Decode leaf.Value
  | text _ => Decode.text
  | schema => Decode.optional Decode.text
  | acronyms => Decode.wordSet
  | level _ => Decode.level

/-- The value of a leaf. -/
def of (settings : Settings) : (leaf : Leaf) → leaf.Value
  | text leaf => leaf.of settings
  | schema => settings.schema.path
  | acronyms => settings.codegen.naming.acronyms
  | level kind => settings.codegen.diagnostics.of kind

/-- The settings with another level for a kind of finding. -/
def putLevel (level : Level) (settings : Settings) (kind : FindingKind) : Settings :=
  { settings with codegen := { settings.codegen with diagnostics := match kind with
      | .unsupportedElement => { settings.codegen.diagnostics with unsupportedElement := level }
      | .fieldNameCollision => { settings.codegen.diagnostics with fieldNameCollision := level }
      | .malformedIdentifier => { settings.codegen.diagnostics with malformedIdentifier := level }
      | .classNameCollision =>
        { settings.codegen.diagnostics with classNameCollision := level } } }

/-- The settings with another value at a leaf. -/
def put (settings : Settings) : (leaf : Leaf) → (value : leaf.Value) → Settings
  | text leaf, value => leaf.put value settings
  | schema, value => { settings with schema := { path := value } }
  | acronyms, value =>
    { settings with codegen := { settings.codegen with naming := { acronyms := value } } }
  | level kind, value => putLevel value settings kind

/-- Every leaf is read on its own. -/
theorem readsAt (leaf : Leaf) :
    (settingsShape : Decode Settings).ReadsAt {} leaf.path leaf.read (leaf.of ·)
      fun value settings => leaf.put settings value := by
  -- The group that a leaf is in is a part of the settings, or of a part of them.
  have output := settingsParts.nth 0 (by decide)
  have schema := settingsParts.nth 1 (by decide)
  have codegen := settingsParts.nth 2 (by decide)
  have render := settingsParts.nth 3 (by decide)
  have naming := codegen.trans (codegenParts.nth 0 (by decide))
  have levels := codegen.trans (codegenParts.nth 1 (by decide))
  have types := render.trans (profileParts.nth 0 (by decide))
  have annotations := render.trans (profileParts.nth 1 (by decide))
  rcases leaf with leaf | _ | _ | kind
  · cases leaf with
    | directory => exact output.trans (outputParts.nth 0 (by decide))
    | package => exact output.trans (outputParts.nth 1 (by decide))
    | string => exact types.trans (typeNamesParts.nth 0 (by decide))
    | number => exact types.trans (typeNamesParts.nth 1 (by decide))
    | dateTime => exact types.trans (typeNamesParts.nth 2 (by decide))
    | list => exact types.trans (typeNamesParts.nth 3 (by decide))
    | option => exact types.trans (typeNamesParts.nth 4 (by decide))
    | asset => exact types.trans (typeNamesParts.nth 5 (by decide))
    | taxonomy => exact types.trans (typeNamesParts.nth 6 (by decide))
    | contentItem => exact types.trans (typeNamesParts.nth 7 (by decide))
    | element => exact annotations.trans (annotationNamesParts.nth 0 (by decide))
    | contentType => exact annotations.trans (annotationNamesParts.nth 1 (by decide))
    | keywordEscape => exact render.trans (profileParts.nth 2 (by decide))
    | indent => exact render.trans (profileParts.nth 3 (by decide))
  · exact schema.trans (schemaParts.nth 0 (by decide))
  · exact naming.trans namingShape_acronyms
  · cases kind with
    | unsupportedElement => exact levels.trans (levelsParts.nth 0 (by decide))
    | fieldNameCollision => exact levels.trans (levelsParts.nth 1 (by decide))
    | malformedIdentifier => exact levels.trans (levelsParts.nth 2 (by decide))
    | classNameCollision => exact levels.trans (levelsParts.nth 3 (by decide))

/-- All leaves. -/
def all : List Leaf :=
  [.text .directory, .text .package, .schema, .acronyms, .level .unsupportedElement,
    .level .fieldNameCollision, .level .malformedIdentifier, .level .classNameCollision,
    .text .string, .text .number, .text .dateTime, .text .list, .text .option, .text .asset,
    .text .taxonomy, .text .contentItem, .text .element, .text .contentType,
    .text .keywordEscape, .text .indent]

/-- No leaf is left out. -/
theorem mem_all (leaf : Leaf) : leaf ∈ all := by
  -- There are few leaves of each kind, and all are listed.
  rcases leaf with leaf | _ | _ | kind
  · cases leaf <;> decide
  · decide
  · decide
  · cases kind <;> decide

/-- Some names lead to every leaf. -/
theorem exists_path (leaf : Leaf) : ∃ name rest, leaf.path = name :: rest := by
  -- A leaf stands under at least its own key.
  rcases leaf with leaf | _ | _ | kind
  · cases leaf <;> exact ⟨_, _, rfl⟩
  · exact ⟨_, _, rfl⟩
  · exact ⟨_, _, rfl⟩
  · exact ⟨_, _, rfl⟩

/-- No leaf lies below another one. -/
theorem eq_of_prefix {leaf other : Leaf} (below : leaf.path <+: other.path) : leaf = other := by
  -- Every pair of leaves is looked at.
  have checked : ∀ leaf ∈ all, ∀ other ∈ all, leaf.path.isPrefixOf other.path = true →
      leaf = other := by
    decide +kernel
  exact checked leaf leaf.mem_all other other.mem_all (List.isPrefixOf_iff_prefix.mpr below)

/-- A name in a path is in lower case, and not the name of a position. -/
theorem name_plain {leaf : Leaf} {name : String} (member : name ∈ leaf.path) :
    lowerKey name = name ∧ name.toList.head? ≠ some '[' := by
  -- The names of all leaves are checked.
  have checked : ∀ leaf ∈ all, ∀ name ∈ leaf.path,
      lowerKey name = name ∧ name.toList.head? ≠ some '[' := by
    decide +kernel
  exact checked leaf leaf.mem_all name member

end Leaf

end ContentClasses
