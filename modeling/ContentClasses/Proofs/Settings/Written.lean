import ContentClasses.Proofs.Toml.Tables
import ContentClasses.Settings.Written

/-! The written form of settings is read back as one table for each group of them. -/

namespace ContentClasses

open Toml

/-- The assignment of a text as it is written. -/
def textAssignment (key text : String) : Assignment :=
  ⟨key, writtenText text.toList, .string text⟩

/-- The assignment of a list of texts as it is written. -/
def textsAssignment (key : String) (texts : List String) : Assignment :=
  ⟨key, writtenTexts texts, .array (texts.map .string)⟩

/-- Written texts are read back from their lines. -/
theorem textAssignment_faithful {key : String} (bare : isBare key = true) (text : String) :
    (textAssignment key text).Faithful where
  bare := bare
  begins c first := by
    -- The line begins with the quote of its text.
    obtain ⟨quote, others, same, kind⟩ := writtenText_eq_cons text.toList
    have present : quote = c := by simpa [textAssignment, same] using first
    exact present ▸ (isToken_quote kind).blank
  filled := by
    obtain ⟨quote, others, same, _⟩ := writtenText_eq_cons text.toList
    simp [textAssignment, same]
  read rest := by
    -- Behind the value the line ends, so the quotes end where the text does.
    have read := valueWithin_writtenText maxDepth text.toList ('\n' :: rest) (by simp)
      (by simp)
    simpa [textAssignment, Scan.value] using read

/-- Written lists of texts are read back from their lines. -/
theorem textsAssignment_faithful {key : String} (bare : isBare key = true) (texts : List String) :
    (textsAssignment key texts).Faithful where
  bare := bare
  begins c first := by
    -- The line begins with the bracket of its list.
    obtain ⟨opened, same, _⟩ := arrayRest_writtenTexts texts 0 []
    have present : '[' = c := by simpa [textsAssignment, same] using first
    exact present ▸ (by decide)
  filled := by
    obtain ⟨opened, same, _⟩ := arrayRest_writtenTexts texts 0 []
    simp [textsAssignment, same]
  read rest := valueWithin_writtenTexts texts (maxDepth - 1) ('\n' :: rest)

/-- The entries of the written output settings. -/
def OutputSettings.document (output : OutputSettings) : List (String × Toml.Value) := [
  ("directory", .string output.directory),
  ("package", .string output.package)]

/-- The entries of the written settings for the schema. -/
def SchemaSettings.document (schema : SchemaSettings) : List (String × Toml.Value) :=
  schema.path.toList.map fun path => ("path", .string path)

/-- The entries of the written settings for names. -/
def Naming.document (naming : Naming) : List (String × Toml.Value) := [
  ("acronyms", .array (naming.acronyms.words.map .string))]

/-- The entries of the written levels. -/
def Levels.document (levels : Levels) : List (String × Toml.Value) := [
  ("unsupported_element", .string (nameIn levelNames levels.unsupportedElement)),
  ("field_name_collision", .string (nameIn levelNames levels.fieldNameCollision)),
  ("malformed_identifier", .string (nameIn levelNames levels.malformedIdentifier)),
  ("class_name_collision", .string (nameIn levelNames levels.classNameCollision))]

/-- The entries of the written settings for names and findings. -/
def CodegenConfig.document (config : CodegenConfig) : List (String × Toml.Value) := [
  ("naming", .table config.naming.document),
  ("diagnostics", .table config.diagnostics.document)]

/-- The entries of the written names of types. -/
def Java.TypeNames.document (types : Java.TypeNames) : List (String × Toml.Value) := [
  ("string", .string types.string),
  ("number", .string types.number),
  ("date_time", .string types.dateTime),
  ("list", .string types.list),
  ("option", .string types.option),
  ("asset", .string types.asset),
  ("taxonomy", .string types.taxonomy),
  ("content_item", .string types.contentItem)]

/-- The entries of the written names of annotations. -/
def Java.AnnotationNames.document (names : Java.AnnotationNames) : List (String × Toml.Value) := [
  ("element", .string names.element),
  ("content_type", .string names.contentType)]

/-- The entries of the written settings for sources. -/
def Java.Profile.document (profile : Java.Profile) : List (String × Toml.Value) := [
  ("keyword_escape", .string profile.keywordEscape),
  ("indent", .string profile.indent),
  ("types", .table profile.types.document),
  ("annotations", .table profile.annotations.document)]

/-- The entries of the document that the written settings are. -/
def Settings.document (settings : Settings) : List (String × Toml.Value) := [
  ("output", .table settings.output.document),
  ("schema", .table settings.schema.document),
  ("codegen", .table settings.codegen.document),
  ("render", .table settings.render.document)]

namespace Settings

/-- The tables of the written settings. -/
def tables (settings : Settings) : List Toml.Section :=
  let level (key : String) (level : Level) := textAssignment key (nameIn levelNames level)
  let levels := settings.codegen.diagnostics
  let types := settings.render.types
  [ ⟨"output", [], [
      textAssignment "directory" settings.output.directory,
      textAssignment "package" settings.output.package]⟩,
    ⟨"schema", [], settings.schema.path.toList.map (textAssignment "path")⟩,
    ⟨"codegen", ["naming"], [textsAssignment "acronyms" settings.codegen.naming.acronyms.words]⟩,
    ⟨"codegen", ["diagnostics"], [
      level "unsupported_element" levels.unsupportedElement,
      level "field_name_collision" levels.fieldNameCollision,
      level "malformed_identifier" levels.malformedIdentifier,
      level "class_name_collision" levels.classNameCollision]⟩,
    ⟨"render", [], [
      textAssignment "keyword_escape" settings.render.keywordEscape,
      textAssignment "indent" settings.render.indent]⟩,
    ⟨"render", ["types"], [
      textAssignment "string" types.string,
      textAssignment "number" types.number,
      textAssignment "date_time" types.dateTime,
      textAssignment "list" types.list,
      textAssignment "option" types.option,
      textAssignment "asset" types.asset,
      textAssignment "taxonomy" types.taxonomy,
      textAssignment "content_item" types.contentItem]⟩,
    ⟨"render", ["annotations"], [
      textAssignment "element" settings.render.annotations.element,
      textAssignment "content_type" settings.render.annotations.contentType]⟩]

/-- All tables of the written settings are read back. -/
theorem tables_faithful (settings : Settings) : ∀ table ∈ settings.tables, table.Faithful := by
  simp only [tables, List.forall_mem_cons, List.not_mem_nil, false_implies, implies_true, and_true]
  have named {first : String} {others : List String} {assignments : List Assignment}
      (plain : isKey (first :: others) = true)
      (all : ∀ assignment ∈ assignments, assignment.Faithful) :
      Section.Faithful ⟨first, others, assignments⟩ := ⟨plain, all⟩
  -- All names are bare, and all values are texts or lists of them.
  refine ⟨named (by decide) ?_, named (by decide) ?_, named (by decide) ?_, named (by decide) ?_,
    named (by decide) ?_, named (by decide) ?_, named (by decide) ?_⟩ <;>
  simp (disch := decide) [textAssignment_faithful, textsAssignment_faithful]

/-- A written table is the text of its lines. -/
theorem toList_writtenTable {first : String} {others : List String} {header : String}
    (key : header.toList = dottedKey first others) {lines : List String}
    {assignments : List Assignment}
    (same : lines.map String.toList = assignments.map Assignment.text) :
    (writtenTable header lines).toList = (Section.text ⟨first, others, assignments⟩) := by
  have joined : (String.join lines).toList = assignments.flatMap Assignment.text := by
    rw [String.toList_join, List.flatMap_def, same, ← List.flatMap_def]
  simp [writtenTable, Section.text, key, joined]

/-- The written settings are a document of their tables. -/
theorem written_eq (settings : Settings) :
    settings.written = String.ofList (documentText settings.tables) := by
  -- A line is the same text, whether it is written or taken from its assignment.
  have line (key text : String) :
      (textLine key text).toList = (textAssignment key text).text := by
    simp [textLine, assignmentLine, textAssignment, Assignment.text]
  have list : (assignmentLine "acronyms"
      (Toml.writtenTexts settings.codegen.naming.acronyms.words)).toList =
        (textsAssignment "acronyms" settings.codegen.naming.acronyms.words).text := by
    simp [assignmentLine, textsAssignment, Assignment.text]
  rw [← String.toList_inj, String.toList_ofList]
  simp only [written, String.toList_intercalate, documentText]
  refine congrArg _ ?_
  simp only [tables, List.map_cons, List.map_nil, List.cons.injEq, and_true]
  refine ⟨?_, ?_, ?_, ?_, ?_, ?_, ?_⟩ <;>
    -- Each table is written line by line, in the order of its assignments.
    refine toList_writtenTable (by rfl) ?_ <;> simp [line, list, levelLine]

/-- The tables of the written settings build their document. -/
theorem tables_build (settings : Settings) :
    ∃ draft, Builds {} settings.tables draft ∧ draft.root.toValue = .table settings.document := by
  obtain ⟨output, ⟨path⟩, codegen, render⟩ := settings
  have distinct : ((assigned (path.toList.map (textAssignment "path"))).map (·.1)).Nodup := by
    cases path <;> simp [assigned]
  -- Each table is added where none of its name stands, and behind those of the same group.
  refine ⟨_, .cons (foldlM_table rfl ?_ []) <| .cons (foldlM_table rfl distinct _) <|
    .cons (foldlM_tableWithin_new rfl ?_ _) <| .cons (foldlM_tableWithin rfl rfl ?_ _ _) <|
    .cons (foldlM_table rfl ?_ _) <| .cons (foldlM_tableWithin rfl rfl ?_ _ _) <|
    .cons (foldlM_tableWithin rfl rfl ?_ _ _) <| .nil _, ?_⟩
  case refine_7 => cases path <;> rfl
  all_goals simp [assigned, textAssignment, textsAssignment]

/-- The written settings are read back as their document. -/
theorem readDocument_written (settings : Settings) :
    Toml.readDocument settings.written = some settings.document := by
  -- The document is read line by line, and the lines build what was written.
  obtain ⟨draft, built, whole⟩ := settings.tables_build
  unfold Builds at built
  rw [written_eq, Toml.readDocument, readLines_documentText settings.tables_faithful]
  simp [built, whole]

end Settings

end ContentClasses
