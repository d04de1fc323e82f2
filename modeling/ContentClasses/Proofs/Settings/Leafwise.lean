import ContentClasses.Proofs.Settings.Layering
import ContentClasses.Proofs.Settings.Sources

/-! Every leaf has the value of the last layer that sets it, or its default if none does. -/

namespace ContentClasses

variable {path : List String} {key : String} {setting : Setting}
  {entries : List (String × Setting)} {origin : Option String}

/-- Whether a reader reads all that is known at a path. -/
def Decode.Readable {α : Type} (decode : Decode α) (path : List String) : Prop :=
  ∀ setting, setting.KnownAt path → ∃ value, decode.run setting = .ok value

/-- What is known at a leaf is read there. -/
theorem Leaf.readable (leaf : Leaf) : leaf.read.Readable leaf.path := by
  intro setting known
  -- A table stands only at a group, and a leaf is none.
  rcases known.cases with ⟨_, _, _, group, _⟩ | ⟨_, _, other, same, value, read⟩
  · exact absurd group (not_isGroup_leaf leaf)
  · cases Leaf.eq_of_prefix (same ▸ List.prefix_refl _ : other.path <+: leaf.path)
    exact ⟨value, read⟩

/-- A group is read where its parts are. -/
theorem GroupParts.readable {α : Type} {parts : GroupParts α}
    (inner : path ∉ Leaf.all.map Leaf.path)
    (each : parts.parts.Forall fun part => part.read.Readable (path ++ [part.key])) :
    parts.decode.Readable path := by
  intro setting known
  -- What is known at a path of no leaf is a table, whose entries are known at the paths of the
  -- parts.
  rcases known.cases with ⟨entries, origin, rfl, _, within⟩ | ⟨_, _, leaf, same, _⟩
  · exact exists_run_table fun part member setting found =>
      List.forall_iff_forall_mem.mp each part member setting (within.lookup found)
  · exact absurd (List.mem_map.mpr ⟨leaf, leaf.mem_all, same⟩) inner

/-- Known settings are read. -/
theorem settingsShape_readable : (settingsShape : Decode Settings).Readable [] := by
  -- The leaves are read, then the groups around them from the inside out.
  have text (leaf : TextLeaf) := (Leaf.text leaf).readable
  have level (kind : FindingKind) := (Leaf.level kind).readable
  -- The groups of texts have only texts, and may be missing as a whole.
  have output : Decode.Readable outputShape ["output"] :=
    outputParts.readable (by decide) ⟨text .directory, text .package⟩
  have schema : Decode.Readable schemaShape ["schema"] :=
    schemaParts.readable (by decide) Leaf.schema.readable
  have naming : Decode.Readable namingShape ["codegen", "naming"] := by
    rw [namingShape_eq]
    exact namingParts.readable (by decide) Leaf.acronyms.readable
  have levels : Decode.Readable levelsShape ["codegen", "diagnostics"] :=
    levelsParts.readable (by decide) ⟨level .unsupportedElement, level .fieldNameCollision,
      level .malformedIdentifier, level .classNameCollision⟩
  -- A group of groups is read when each of them is.
  have codegen : Decode.Readable codegenShape ["codegen"] :=
    codegenParts.readable (by decide) ⟨naming, levels⟩
  have types : Decode.Readable typeNamesShape ["render", "types"] :=
    typeNamesParts.readable (by decide) ⟨text .string, text .number, text .dateTime, text .list,
      text .option, text .asset, text .taxonomy, text .contentItem⟩
  have annotations : Decode.Readable annotationNamesShape ["render", "annotations"] :=
    annotationNamesParts.readable (by decide) ⟨text .element, text .contentType⟩
  have render : Decode.Readable profileShape ["render"] :=
    profileParts.readable (by decide) ⟨types, annotations, text .keywordEscape, text .indent⟩
  exact settingsParts.readable (by decide) ⟨output, schema, codegen, render⟩

/-- On the way to a leaf, what is known is a table. -/
theorem Setting.KnownAt.tabular {leaf : Leaf} {rest : List String} (known : setting.KnownAt path)
    (way : leaf.path = path ++ rest) : setting.Tabular rest := by
  -- Each step goes from a table to one of its entries, which is known again.
  induction rest generalizing setting path with
  | nil => trivial
  | cons name rest ih =>
    rcases known.cases with ⟨entries, origin, rfl, _, within⟩ | ⟨_, _, other, same, _⟩
    · exact ⟨⟨entries, origin, rfl⟩, fun inner found => ih (within.lookup found) (by simp [way])⟩
    · -- Another leaf would lie above this one.
      have below : other.path <+: leaf.path := by
        rw [same, way]
        exact List.prefix_append _ _
      rw [Leaf.eq_of_prefix below, way] at same
      simp at same

/-- Known settings are read with every leaf as it stands among them, or as its default. -/
theorem KnownEntries.read (known : KnownEntries [] entries) (origin : Option String) :
    ∃ settings, (settingsShape : Decode Settings).run (.table entries origin) = .ok settings ∧
      ∀ leaf : Leaf, leaf.read.Gives (leaf.of {}) ((Setting.table entries origin).at? leaf.path)
        (leaf.of settings) := by
  -- The entries are a table at the root, above every leaf.
  have whole : (Setting.table entries origin).KnownAt [] :=
    ⟨⟨.schema, List.nil_prefix, by simp [Leaf.path]⟩, known⟩
  obtain ⟨settings, read⟩ := settingsShape_readable _ whole
  exact ⟨settings, read, fun leaf => leaf.readsAt.gives _ _ (whole.tabular rfl) read⟩

/-- Known layers over each other are known, and each leaf stands there as in the last of them that
sets it. -/
theorem foldl_layered {layers : List (List (String × Setting))}
    (known : ∀ layer ∈ layers, KnownLayer layer)
    (before : KnownEntries [] entries) (origin : Option String) :
    KnownEntries [] (layers.foldl (fun entries layer => layered layer entries) entries) ∧
      ∀ leaf : Leaf,
        (Setting.table (layers.foldl (fun entries layer => layered layer entries) entries)
            origin).at? leaf.path =
          (layers.reverse.findSome? leaf.given?).or
            ((Setting.table entries origin).at? leaf.path) := by
  -- Each layer goes over what those before it have left.
  induction layers generalizing entries with
  | nil => exact ⟨before, fun leaf => rfl⟩
  | cons layer layers ih =>
    obtain ⟨first, others⟩ := List.forall_mem_cons.mp known
    obtain ⟨still, found⟩ := ih others (first.layered before)
    refine ⟨still, fun leaf => ?_⟩
    rw [List.foldl_cons, found, first.at?_layered, List.reverse_cons, List.findSome?_append,
      List.findSome?_singleton, Option.or_assoc]

/-- Where the three files in the working directory, the user's own one, the one that is given and
the environment set known leaves only, the settings are loaded, and each leaf has the value that the
last of these layers which sets it has for it, or its default if none does. -/
theorem loadSettings_leafwise [Host] {files : FileSystem} {environment : List (String × String)}
    {extra : Option String} {plain hidden nested user given : List (String × Setting)}
    (sets_plain : files.MaySet "content-codegen.toml" plain)
    (sets_hidden : files.MaySet ".content-codegen.toml" hidden)
    (sets_nested : files.MaySet "config/content-codegen.toml" nested)
    (sets_user : files.UserSets environment user) (sets_given : files.GivenSets extra given)
    (known : ∀ layer ∈ [plain, hidden, nested, user, given, Environment.settings environment],
      KnownLayer layer) :
    ∃ settings, loadSettings files environment extra = .ok settings ∧
      ∀ leaf : Leaf, leaf.read.Gives (leaf.of {})
        ([Environment.settings environment, given, user, nested, hidden, plain].findSome?
          leaf.given?)
        (leaf.of settings) := by
  -- The environment is one more layer, which comes last.
  have nothing : KnownEntries [] [] := trivial
  obtain ⟨still, found⟩ := foldl_layered known nothing none
  obtain ⟨settings, decoded, values⟩ := still.read none
  refine ⟨settings, ?_, fun leaf => ?_⟩
  · rw [loadSettings, mergedFiles_layers sets_plain sets_hidden sets_nested sets_user sets_given]
    exact decoded
  · obtain ⟨name, rest, way⟩ := leaf.exists_path
    have value := values leaf
    -- Nothing stood there before the first layer.
    rwa [found, way, Setting.at?, Setting.asTable, List.lookup_nil, Option.bind_none,
      Option.or_none] at value

/-- Whether a file is there, can be read and sets known leaves only. -/
def FileSystem.SetsKnown [Host] (files : FileSystem) (name : String) : Prop :=
  ∃ layer, files.FileSets name layer ∧ KnownLayer layer

instance [Host] (files : FileSystem) (name : String) : Decidable (files.SetsKnown name) :=
  match found : SettingsFile.read ⟨name, true⟩ files with
  | .ok layer =>
    if known : KnownLayer layer then .isTrue ⟨layer, files.fileSets_of_read found, known⟩
    else .isFalse fun ⟨_, sets, sound⟩ =>
      known (Except.ok.inj (found.symm.trans (sets.read true)) ▸ sound)
  | .error _ => .isFalse fun ⟨_, sets, _⟩ => nomatch found.symm.trans (sets.read true)

/-- A working directory with three files of settings and one that can be given, and the home of a
user with one more. -/
def layeredWorkplace : FileSystem where
  tree := ⟨[
    (["work"], .directory),
    (["work", "content-codegen.toml"], .text (
      "output = \x7b directory = \"a\", package = \"p\" \x7d\n" ++
      "codegen.naming.acronyms = [\"URL\"]\n")),
    (["work", ".content-codegen.toml"], .text
      "[codegen.naming]\nacronyms = [\"SKU\"]\n[render]\n"),
    (["work", "config"], .directory),
    (["work", "config", "content-codegen.toml"], .text
      "[output]\npackage = \"q\"\n[schema]\npath = \"nested.json\"\n"),
    (["work", "given.json"], .text (
      "\x7b\"output\":\x7b\"directory\":\"b\"\x7d," ++
      "\"render\":\x7b\"keyword_escape\":\"x\",\"indent\":\" \"\x7d\x7d")),
    (["home"], .directory),
    (["home", ".config"], .directory),
    (["home", ".config", "content-codegen"], .directory),
    (["home", ".config", "content-codegen", "content-codegen.toml"], .text
      "[output]\ndirectory = \"u\"\n[schema]\npath = \"user.json\"\n")]⟩
  workingDirectory := ["work"]

/-- The variables in the environment of a user whose home has a file of settings. -/
def layeredVariables : List (String × String) :=
  [("HOME", "/home"), ("CODEGEN__RENDER__KEYWORD_ESCAPE", "k")]

/-- Each layer sets leaves of its own and takes others over: the user's file that of the schema from
the working directory, the given file the directory from the user's, the environment a text from the
given file; and the list of acronyms is replaced as a whole. -/
theorem loadSettings_leafwise_workplace :
    ∃ plain hidden nested user given,
      layeredWorkplace.FileSets "content-codegen.toml" plain ∧
      layeredWorkplace.FileSets ".content-codegen.toml" hidden ∧
      layeredWorkplace.FileSets "config/content-codegen.toml" nested ∧
      layeredWorkplace.FileSets "/home/.config/content-codegen/content-codegen.toml" user ∧
      layeredWorkplace.FileSets "given.json" given ∧
      (∀ layer ∈ [plain, hidden, nested, user, given, Environment.settings layeredVariables],
        KnownLayer layer) ∧
      ∃ settings,
        (loadSettings layeredWorkplace layeredVariables (some "given.json") = .ok settings ∧
          ∀ leaf : Leaf, leaf.read.Gives (leaf.of {})
            ([Environment.settings layeredVariables, given, user, nested, hidden, plain].findSome?
              leaf.given?)
            (leaf.of settings)) ∧
        settings = {
          output := { directory := "b", package := "q" }
          schema := { path := some "user.json" }
          codegen := { naming := { acronyms := .ofList ["SKU"] } }
          render := { keywordEscape := "k", indent := " " } } := by
  -- Each of the five files is read to the layer that it sets.
  obtain ⟨plain, sets_plain, known_plain⟩ :
      layeredWorkplace.SetsKnown "content-codegen.toml" := by decide +kernel
  obtain ⟨hidden, sets_hidden, known_hidden⟩ :
      layeredWorkplace.SetsKnown ".content-codegen.toml" := by decide +kernel
  obtain ⟨nested, sets_nested, known_nested⟩ :
      layeredWorkplace.SetsKnown "config/content-codegen.toml" := by decide +kernel
  obtain ⟨user, sets_user, known_user⟩ :
      layeredWorkplace.SetsKnown "/home/.config/content-codegen/content-codegen.toml" := by
    decide +kernel
  obtain ⟨given, sets_given, known_given⟩ :
      layeredWorkplace.SetsKnown "given.json" := by decide +kernel
  -- The variables set known leaves as well.
  have known_environment : KnownLayer (Environment.settings layeredVariables) := by
    decide +kernel
  have known : ∀ layer ∈ [plain, hidden, nested, user, given,
      Environment.settings layeredVariables], KnownLayer layer := by
    simp [known_plain, known_hidden, known_nested, known_user, known_given, known_environment]
  -- No variable names another directory, so the user's file is in the usual one.
  have home : IsHome layeredVariables "/home" := .named (by decide) (by decide)
  have unset : layeredVariables.lookup "XDG_CONFIG_HOME" = none := by decide
  have joined : Path.join "/home" ".config/content-codegen/content-codegen.toml" =
      "/home/.config/content-codegen/content-codegen.toml" := by decide
  have own : IsUserSettings layeredVariables
      "/home/.config/content-codegen/content-codegen.toml" :=
    joined ▸ .usual home fun _ set => nomatch unset.symm.trans set
  have there : layeredWorkplace.exists?
      "/home/.config/content-codegen/content-codegen.toml" = true := by
    decide +kernel
  have sets_own : layeredWorkplace.UserSets layeredVariables user :=
    .inl ⟨_, own, there, sets_user.may⟩
  have sets_last : layeredWorkplace.GivenSets (some "given.json") given := sets_given
  -- The general law gives the settings, and they are computed once more to compare.
  obtain ⟨settings, leafwise⟩ := loadSettings_leafwise sets_plain.may sets_hidden.may
    sets_nested.may sets_own sets_last known
  have expected : loadSettings layeredWorkplace layeredVariables (some "given.json") = .ok {
      output := { directory := "b", package := "q" }
      schema := { path := some "user.json" }
      codegen := { naming := { acronyms := .ofList ["SKU"] } }
      render := { keywordEscape := "k", indent := " " } } := by
    decide +kernel
  exact ⟨plain, hidden, nested, user, given, sets_plain, sets_hidden, sets_nested, sets_user,
    sets_given, known, settings, leafwise, Except.ok.inj (leafwise.1.symm.trans expected)⟩

end ContentClasses
