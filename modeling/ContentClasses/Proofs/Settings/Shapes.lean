import ContentClasses.Proofs.Settings.Parts

/-! The groups of the settings with their parts, which the shapes of the groups read. -/

namespace ContentClasses

/-- Reads a list of texts as the set of them. -/
def Decode.wordSet : Decode WordSet := WordSet.ofList <$> Decode.texts

/-- The parts of the output settings. -/
def outputParts : GroupParts OutputSettings where
  name := "OutputConfig"
  blank := {}
  parts := [
    .mk String "directory" Decode.text (·.directory) fun directory output =>
      { output with directory },
    .mk String "package" Decode.text (·.package) fun package output => { output with package }]

/-- The only part of the settings for the schema. -/
def schemaParts : GroupParts SchemaSettings where
  name := "SchemaSourceConfig"
  blank := {}
  parts := [
    .mk (Option String) "path" (Decode.optional Decode.text) (·.path) fun path schema =>
      { schema with path }]

/-- The only part of the settings for names. -/
def namingParts : GroupParts Naming where
  name := "NamingConfig"
  blank := {}
  parts := [
    .mk WordSet "acronyms" Decode.wordSet (·.acronyms) fun acronyms _ => ⟨acronyms⟩]

/-- The parts of the levels. -/
def levelsParts : GroupParts Levels where
  name := "DiagnosticsConfig"
  blank := {}
  parts := [
    .mk Level "unsupported_element" Decode.level (·.unsupportedElement) fun level levels =>
      { levels with unsupportedElement := level },
    .mk Level "field_name_collision" Decode.level (·.fieldNameCollision) fun level levels =>
      { levels with fieldNameCollision := level },
    .mk Level "malformed_identifier" Decode.level (·.malformedIdentifier) fun level levels =>
      { levels with malformedIdentifier := level },
    .mk Level "class_name_collision" Decode.level (·.classNameCollision) fun level levels =>
      { levels with classNameCollision := level }]

/-- The parts of the settings for names and findings. -/
def codegenParts : GroupParts CodegenConfig where
  name := "CodegenConfig"
  blank := {}
  parts := [
    .mk Naming "naming" namingShape (·.naming) fun naming config => { config with naming },
    .mk Levels "diagnostics" levelsShape (·.diagnostics) fun diagnostics config =>
      { config with diagnostics }]

/-- The parts of the names of types. -/
def typeNamesParts : GroupParts Java.TypeNames where
  name := "TypeMappings"
  blank := {}
  parts := [
    .mk String "string" Decode.text (·.string) fun string names => { names with string },
    .mk String "number" Decode.text (·.number) fun number names => { names with number },
    .mk String "date_time" Decode.text (·.dateTime) fun dateTime names => { names with dateTime },
    .mk String "list" Decode.text (·.list) fun list names => { names with list },
    .mk String "option" Decode.text (·.option) fun option names => { names with option },
    .mk String "asset" Decode.text (·.asset) fun asset names => { names with asset },
    .mk String "taxonomy" Decode.text (·.taxonomy) fun taxonomy names => { names with taxonomy },
    .mk String "content_item" Decode.text (·.contentItem) fun contentItem names =>
      { names with contentItem }]

/-- The parts of the names of annotations. -/
def annotationNamesParts : GroupParts Java.AnnotationNames where
  name := "AnnotationNames"
  blank := {}
  parts := [
    .mk String "element" Decode.text (·.element) fun element names => { names with element },
    .mk String "content_type" Decode.text (·.contentType) fun contentType names =>
      { names with contentType }]

/-- The parts of the settings for sources. -/
def profileParts : GroupParts Java.Profile where
  name := "RenderProfile"
  blank := {}
  parts := [
    .mk Java.TypeNames "types" typeNamesShape (·.types) fun types profile => { profile with types },
    .mk Java.AnnotationNames "annotations" annotationNamesShape (·.annotations)
      fun annotations profile => { profile with annotations },
    .mk String "keyword_escape" Decode.text (·.keywordEscape) fun keywordEscape profile =>
      { profile with keywordEscape },
    .mk String "indent" Decode.text (·.indent) fun indent profile => { profile with indent }]

/-- The parts of all settings. -/
def settingsParts : GroupParts Settings where
  name := "GeneratorConfig"
  blank := {}
  parts := [
    .mk OutputSettings "output" outputShape (·.output) fun output settings =>
      { settings with output },
    .mk SchemaSettings "schema" schemaShape (·.schema) fun schema settings =>
      { settings with schema },
    .mk CodegenConfig "codegen" codegenShape (·.codegen) fun codegen settings =>
      { settings with codegen },
    .mk Java.Profile "render" profileShape (·.render) fun render settings =>
      { settings with render }]

/-- The settings for names are read as their part, which is made of a list. -/
theorem namingShape_eq : (namingShape : Decode Naming) = namingParts.decode := by
  -- A set of words is read as a list and put in order, wherever that is done.
  have same : (GroupField.of "acronyms" Decode.texts fun acronyms (_ : Naming) =>
      { acronyms := .ofList acronyms } : GroupField Decode Naming) =
      .of "acronyms" Decode.wordSet fun acronyms _ => ⟨acronyms⟩ := by
    simp [GroupField.of, Decode.wordSet]
  exact congrArg (fun field => SettingsSource.group "NamingConfig" [field] {}) same

/-- The acronyms are read on their own among the settings for names. -/
theorem namingShape_acronyms : (namingShape : Decode Naming).ReadsAt {} ["acronyms"]
    Decode.wordSet (·.acronyms) fun acronyms _ => ⟨acronyms⟩ := by
  rw [namingShape_eq]
  exact namingParts.nth 0 (by decide)

end ContentClasses
