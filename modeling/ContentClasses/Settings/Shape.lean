import ContentClasses.Settings.Basic

/-! The shape of the settings: every group with the keys and types of what is in it, for any
source. -/

namespace ContentClasses

/-- A value in a group: its key and the reader of the change that it makes to the group. -/
structure GroupField (m : Type → Type) (α : Type) where
  key : String
  change : m (α → α)

/-- What settings can be read from: readers for all types of values that occur among them. -/
class SettingsSource (m : Type → Type) : Type 1 extends Monad m where
  text : m String
  path : m String
  words : m (List String)
  level : m Level
  optional {α : Type} : m α → m (Option α)
  /-- A named group, whose values are changes to its defaults. -/
  group {α : Type} : (name : String) → List (GroupField m α) → α → m α

variable {m : Type → Type} [SettingsSource m]

open SettingsSource

/-- A value in a group, given by its reader and by the function that puts it there. -/
def GroupField.of {α β : Type} (key : String) (read : m β) (put : β → α → α) : GroupField m α where
  key := key
  change := do
    let value ← read
    pure (put value)

/-- The output settings. -/
def outputShape : m OutputSettings :=
  group "OutputConfig" [
      .of "directory" path fun directory output => { output with directory },
      .of "package" text fun package output => { output with package }]
    {}

/-- The settings for the schema. -/
def schemaShape : m SchemaSettings :=
  group "SchemaSourceConfig" [
      .of "path" (optional path) fun path schema => { schema with path }]
    {}

/-- The settings for names. -/
def namingShape : m Naming :=
  group "NamingConfig" [
      .of "acronyms" words fun acronyms _ => { acronyms := .ofList acronyms }]
    {}

/-- The levels of findings. -/
def levelsShape : m Levels :=
  group "DiagnosticsConfig" [
      .of "unsupported_element" level fun level levels =>
        { levels with unsupportedElement := level },
      .of "field_name_collision" level fun level levels =>
        { levels with fieldNameCollision := level },
      .of "malformed_identifier" level fun level levels =>
        { levels with malformedIdentifier := level },
      .of "class_name_collision" level fun level levels =>
        { levels with classNameCollision := level }]
    {}

/-- The settings for names and findings. -/
def codegenShape : m CodegenConfig :=
  group "CodegenConfig" [
      .of "naming" namingShape fun naming config => { config with naming },
      .of "diagnostics" levelsShape fun diagnostics config => { config with diagnostics }]
    {}

/-- The names of types. -/
def typeNamesShape : m Java.TypeNames :=
  group "TypeMappings" [
      .of "string" text fun string names => { names with string },
      .of "number" text fun number names => { names with number },
      .of "date_time" text fun dateTime names => { names with dateTime },
      .of "list" text fun list names => { names with list },
      .of "option" text fun option names => { names with option },
      .of "asset" text fun asset names => { names with asset },
      .of "taxonomy" text fun taxonomy names => { names with taxonomy },
      .of "content_item" text fun contentItem names => { names with contentItem }]
    {}

/-- The names of annotations. -/
def annotationNamesShape : m Java.AnnotationNames :=
  group "AnnotationNames" [
      .of "element" text fun element names => { names with element },
      .of "content_type" text fun contentType names => { names with contentType }]
    {}

/-- The settings for sources. -/
def profileShape : m Java.Profile :=
  group "RenderProfile" [
      .of "types" typeNamesShape fun types profile => { profile with types },
      .of "annotations" annotationNamesShape fun annotations profile =>
        { profile with annotations },
      .of "keyword_escape" text fun keywordEscape profile => { profile with keywordEscape },
      .of "indent" text fun indent profile => { profile with indent }]
    {}

/-- All settings. -/
def settingsShape : m Settings :=
  group "GeneratorConfig" [
      .of "output" outputShape fun output settings => { settings with output },
      .of "schema" schemaShape fun schema settings => { settings with schema },
      .of "codegen" codegenShape fun codegen settings => { settings with codegen },
      .of "render" profileShape fun render settings => { settings with render }]
    {}

end ContentClasses
