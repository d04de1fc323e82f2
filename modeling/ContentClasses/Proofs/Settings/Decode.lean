import ContentClasses.Proofs.Settings.Layers
import ContentClasses.Proofs.Settings.Written
import ContentClasses.Settings.Decode

/-! The entries of the written settings are typed as the settings that were written. -/

namespace ContentClasses

namespace WordSet

/-- A word after all others goes to their end. -/
theorem insertWord_last {word : String} {words : List String}
    (last : ∀ other ∈ words, other < word) : insertWord word words = words ++ [word] := by
  -- The word is passed on behind each one that is smaller.
  induction words with
  | nil => rfl
  | cons first rest ih =>
    have before := last first (.head _)
    have later := ih fun other among => last other (.tail _ among)
    simp [insertWord, String.lt_asymm before, before, later]

/-- The set of the words of a set is that set. -/
theorem ofList_words (set : WordSet) : ofList set.words = set := by
  -- Words that come in increasing order are each put at the end.
  have general (words others : List String) (increasing : (others ++ words).Pairwise (· < ·)) :
      ∀ given : WordSet, given.words = others →
        (words.foldl insert given).words = others ++ words := by
    induction words generalizing others with
    | nil => intro given same; simpa using same
    | cons word words ih =>
      intro given same
      have moved : others ++ word :: words = (others ++ [word]) ++ words := by simp
      rw [moved] at increasing ⊢
      have last : ∀ other ∈ others, other < word := by
        rw [List.pairwise_append, List.pairwise_append] at increasing
        exact fun other among => increasing.1.2.2 other among word (by simp)
      exact ih (others ++ [word]) increasing (given.insert word) (by
        simp [insert, same, insertWord_last last])
  -- The set is the same as its words, which are in increasing order.
  have words : (ofList set.words).words = set.words := general set.words [] set.increasing empty rfl
  generalize ofList set.words = read at words
  cases read
  cases words
  rfl

end WordSet

namespace Decode

variable {α β : Type} {entries : List (String × Setting)} {key : String}

/-- A field that is there changes the group to its value. -/
theorem tableFields_of {read : Decode β} {put : β → α → α} {setting : Setting} {value : β}
    (found : entries.lookup key = some setting) (reads : read.run setting = .ok value)
    (rest : List (GroupField Decode α)) (group : α) :
    tableFields entries (.of key read put :: rest) group =
      tableFields entries rest (put value group) := by
  -- The value is read, and its change is the one of the group.
  have changed : (GroupField.of key read put).change.run setting = .ok (put value) := by
    show ((read.run setting).bind fun value => .ok (put value)) = _
    rw [reads]
    rfl
  simp only [tableFields, part, changed, show (GroupField.of key read put).key = key from rfl,
    found]
  rfl

/-- A group in a table is read field by field. -/
theorem run_group {name : String} {fields : List (GroupField Decode α)} {blank : α}
    (origin : String) (document : List (String × Toml.Value)) :
    (SettingsSource.group name fields blank : Decode α).run (.layer origin (.table document)) =
      tableFields (layerEntries origin document) fields blank :=
  rfl

/-- The texts of a list are read in their order. -/
theorem textsFrom_map (origin : String) (texts : List String) (index : Nat) :
    textsFrom index (Setting.ofTomlItems origin (texts.map .string)) = .ok texts := by
  -- Each text is read at its place in the list.
  induction texts generalizing index with
  | nil => rfl
  | cons text texts ih =>
    simp only [List.map_cons, Setting.ofTomlItems, textsFrom, ih]
    rfl

/-- Written output settings are read as what they are. -/
theorem run_outputShape (origin : String) (output : OutputSettings) :
    (outputShape : Decode OutputSettings).run (.layer origin (.table output.document)) =
      .ok output :=
  rfl

/-- Written settings for the schema are read as what they are, with or without a path. -/
theorem run_schemaShape (origin : String) (schema : SchemaSettings) :
    (schemaShape : Decode SchemaSettings).run (.layer origin (.table schema.document)) =
      .ok schema := by
  obtain ⟨path⟩ := schema
  cases path <;> rfl

/-- Written settings for names are read as what they are. -/
theorem run_namingShape (origin : String) (naming : Naming) :
    (namingShape : Decode Naming).run (.layer origin (.table naming.document)) = .ok naming := by
  -- The words come back as a list, which the set is made of again.
  have read : (SettingsSource.words : Decode (List String)).run
      (.layer origin (.array (naming.acronyms.words.map .string))) =
        .ok naming.acronyms.words :=
    textsFrom_map origin naming.acronyms.words 0
  rw [namingShape, run_group, tableFields_of rfl read, WordSet.ofList_words]
  rfl

/-- A written level is read as what it is. -/
theorem run_level (origin : String) (given : Level) :
    (SettingsSource.level : Decode Level).run
      (.layer origin (.string (nameIn levelNames given))) = .ok given := by
  cases given <;> rfl

/-- Written levels are read as what they are. -/
theorem run_levelsShape (origin : String) (levels : Levels) :
    (levelsShape : Decode Levels).run (.layer origin (.table levels.document)) = .ok levels := by
  -- Each level is found under its own key.
  rw [levelsShape, run_group, tableFields_of rfl (run_level origin levels.unsupportedElement),
    tableFields_of rfl (run_level origin levels.fieldNameCollision),
    tableFields_of rfl (run_level origin levels.malformedIdentifier),
    tableFields_of rfl (run_level origin levels.classNameCollision)]
  rfl

/-- Written settings for names and findings are read as what they are. -/
theorem run_codegenShape (origin : String) (config : CodegenConfig) :
    (codegenShape : Decode CodegenConfig).run (.layer origin (.table config.document)) =
      .ok config := by
  rw [codegenShape, run_group, tableFields_of rfl (run_namingShape origin config.naming),
    tableFields_of rfl (run_levelsShape origin config.diagnostics)]
  rfl

/-- Written names of types are read as what they are. -/
theorem run_typeNamesShape (origin : String) (types : Java.TypeNames) :
    (typeNamesShape : Decode Java.TypeNames).run (.layer origin (.table types.document)) =
      .ok types :=
  rfl

/-- Written names of annotations are read as what they are. -/
theorem run_annotationNamesShape (origin : String) (names : Java.AnnotationNames) :
    (annotationNamesShape : Decode Java.AnnotationNames).run
      (.layer origin (.table names.document)) = .ok names :=
  rfl

/-- Written settings for sources are read as what they are. -/
theorem run_profileShape (origin : String) (profile : Java.Profile) :
    (profileShape : Decode Java.Profile).run (.layer origin (.table profile.document)) =
      .ok profile := by
  rw [profileShape, run_group, tableFields_of rfl (run_typeNamesShape origin profile.types),
    tableFields_of rfl (run_annotationNamesShape origin profile.annotations)]
  rfl

/-- Written settings are read as what they are. -/
theorem run_settingsShape (origin : String) (settings : Settings) :
    (settingsShape : Decode Settings).run (.layer origin (.table settings.document)) =
      .ok settings := by
  -- Each part is found under its own key.
  rw [settingsShape, run_group, tableFields_of rfl (run_outputShape origin settings.output),
    tableFields_of rfl (run_schemaShape origin settings.schema),
    tableFields_of rfl (run_codegenShape origin settings.codegen),
    tableFields_of rfl (run_profileShape origin settings.render)]
  rfl

end Decode

end ContentClasses
