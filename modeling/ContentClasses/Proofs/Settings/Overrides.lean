import ContentClasses.Proofs.Settings.Layering
import ContentClasses.Proofs.Settings.Variables

/-! A variable of the environment decides over its leaf whatever the files say, but a text that can
be taken for a truth value or a number does not come through as it is. -/

namespace ContentClasses

/-- A variable that comes last puts what it gives at its leaf. -/
theorem layered_override (environment : List (String × String)) (leaf : Leaf) (text : String)
    (entries : List (String × Setting)) (origin : Option String) :
    Setting.table
        (layered (Environment.settings (environment ++ [(leaf.variableName, text)])) entries)
        origin =
      (Setting.table (layered (Environment.settings environment) entries) origin).withAt leaf.path
        (Environment.setting leaf.key text) := by
  -- The last setting goes over all others by the path of its key, which is that of the leaf.
  obtain ⟨name, rest, way⟩ := leaf.exists_path
  have last : Environment.settings (environment ++ [(leaf.variableName, text)]) =
      Environment.settings environment ++ [(leaf.key, Environment.setting leaf.key text)] := by
    simp [Environment.settings, leaf.settingKey?_variableName]
  have lower : ∀ other ∈ name :: rest, lowerKey other = other :=
    fun other member => (leaf.name_plain (way ▸ member)).1
  rw [last, layered, List.foldl_append, way,
    ← onto_nested_eq_withAt (Environment.setting_onto leaf.key text) lower,
    ← set_eq_onto lower]
  simp only [List.foldl_cons, List.foldl_nil, leaf.ofKey_key, way, List.headD_cons, List.tail_cons]
  rfl

section

variable [Host] {files : FileSystem} {environment : List (String × String)} {extra : Option String}
  {leaf : Leaf} {text : String}

/-- The variable for a leaf changes no file that is read. -/
theorem settingsFiles_override (files : FileSystem) (environment : List (String × String))
    (extra : Option String) (leaf : Leaf) (text : String) :
    settingsFiles files (environment ++ [(leaf.variableName, text)]) extra =
      settingsFiles files environment extra := by
  -- The files of the user are looked for in the home directory or in one that a variable names.
  obtain ⟨home, user⟩ := leaf.variableName_ne
  have kept (name : String) (other : leaf.variableName ≠ name) :
      (environment ++ [(leaf.variableName, text)]).lookup name = environment.lookup name := by
    simp [List.lookup_append, List.lookup_cons, beq_false_of_ne (Ne.symm other)]
  simp only [settingsFiles, userSettings?, homeDirectory?, kept _ home, kept _ user]

/-- How a variable with a text decides over a leaf, whatever the files and the other variables say:
settings are loaded where some are loaded without it or with another text, and then the leaf has a
given value, and nothing else depends on the text. -/
structure Overrides (files : FileSystem) (environment : List (String × String))
    (extra : Option String) (leaf : Leaf) (text : String) (value : leaf.Value) : Prop where
  loads : ∀ settings, loadSettings files environment extra = .ok settings →
    ∃ changed, loadSettings files (environment ++ [(leaf.variableName, text)]) extra = .ok changed
  gives : ∀ changed,
    loadSettings files (environment ++ [(leaf.variableName, text)]) extra = .ok changed →
      leaf.of changed = value
  others : ∀ other settings,
    loadSettings files (environment ++ [(leaf.variableName, other)]) extra = .ok settings →
      loadSettings files (environment ++ [(leaf.variableName, text)]) extra =
        .ok (leaf.put settings value)

/-- Where the files can be read, what is loaded is read from what they and the variables say, with
what the last variable gives at its leaf. -/
theorem loadSettings_override {merged : List (String × Setting)}
    (read : mergedFiles files (settingsFiles files environment extra) [] = .ok merged)
    (leaf : Leaf) (text : String) :
    loadSettings files (environment ++ [(leaf.variableName, text)]) extra =
      (settingsShape : Decode Settings).run
        ((Setting.table (layered (Environment.settings environment) merged) none).withAt leaf.path
          (Environment.setting leaf.key text)) := by
  rw [loadSettings, settingsFiles_override, read, ← layered_override]
  rfl

/-- A variable decides over its leaf with what is read of its text. -/
theorem overrides {value : leaf.Value}
    (read : leaf.read.run (Environment.setting leaf.key text) = .ok value) :
    Overrides files environment extra leaf text value := by
  cases merged : mergedFiles files (settingsFiles files environment extra) [] with
  | error fault =>
    -- If the files cannot be read, nothing is loaded at all.
    have fails (other : String) (settings : Settings) :
        loadSettings files (environment ++ [(leaf.variableName, other)]) extra ≠ .ok settings := by
      rw [loadSettings, settingsFiles_override, merged]
      exact nofun
    refine ⟨fun settings loaded => ?_, fun changed loaded => absurd loaded (fails text changed),
      fun other settings loaded => absurd loaded (fails other settings)⟩
    rw [loadSettings, merged] at loaded
    cases loaded
  | ok entries =>
    -- What is read besides the leaf is the same whatever the variable gives there.
    obtain ⟨others, kept, settled, met⟩ := leaf.readsAt.changed
      (.table (layered (Environment.settings environment) entries) none)
    have loads (settings : Settings) (free : others settings) :
        loadSettings files (environment ++ [(leaf.variableName, text)]) extra =
          .ok (leaf.put settings value) := by
      rw [loadSettings_override merged, settled, leaf.readsAt.get_put]
      exact ⟨read, (kept value settings).mpr free⟩
    refine ⟨fun settings loaded => ?_, fun changed loaded => ?_, fun other settings loaded => ?_⟩
    · rw [loadSettings, merged] at loaded
      obtain ⟨settings, free⟩ := met (.inr ⟨settings, loaded⟩)
      exact ⟨_, loads settings free⟩
    · -- The leaf is read from what the variable gives.
      rw [loadSettings_override merged, settled, read] at loaded
      exact (Except.ok.inj loaded.1).symm
    · rw [loadSettings_override merged, settled] at loaded
      exact loads settings loaded.2

/-- A variable whose text is not read at its leaf lets nothing be loaded. -/
theorem override_fails (unread : ∀ value,
      leaf.read.run (Environment.setting leaf.key text) ≠ .ok value) (settings : Settings) :
    loadSettings files (environment ++ [(leaf.variableName, text)]) extra ≠ .ok settings := by
  intro loaded
  cases merged : mergedFiles files (settingsFiles files environment extra) [] with
  | error fault =>
    rw [loadSettings, settingsFiles_override, merged] at loaded
    cases loaded
  | ok entries =>
    -- Loaded settings would have a value that is read at the leaf.
    obtain ⟨_, _, settled, _⟩ := leaf.readsAt.changed
      (.table (layered (Environment.settings environment) entries) none)
    rw [loadSettings_override merged, settled] at loaded
    exact unread _ loaded.1

end

/-- The variable of a text leaf and that of the path of the schema give their texts, respelled where
they can be taken for truth values or numbers. That of the acronyms gives the set of the pieces of
its text, or lets nothing be loaded if the text can be taken for such a value. -/
theorem overrides_by_text [Host] (files : FileSystem) (environment : List (String × String))
    (extra : Option String) (text : String) :
    (∀ leaf : TextLeaf, Overrides files environment extra (.text leaf) text
      (Environment.respelled text)) ∧
    Overrides files environment extra .schema text (some (Environment.respelled text)) ∧
    (Environment.guess? text = none → Environment.respelled text = text ∧
      Overrides files environment extra .acronyms text
        (.ofList (Environment.commaPieces text))) ∧
    (Environment.guess? text ≠ none → ∀ settings,
      loadSettings files (environment ++ [(Leaf.acronyms.variableName, text)]) extra ≠
        .ok settings) := by
  -- Each kind of leaf is decided by what its reader makes of the text.
  have other (leaf : Leaf) (different : leaf ≠ .acronyms) : leaf.key ≠ Environment.listKey :=
    fun same => different (leaf.key_eq_listKey_iff.mp same)
  have list : Leaf.acronyms.key = Environment.listKey :=
    Leaf.acronyms.key_eq_listKey_iff.mpr rfl
  refine ⟨fun leaf => overrides ?_, overrides ?_, fun plain => ⟨?_, overrides ?_⟩,
    fun taken => override_fails ?_⟩
  · exact Environment.run_text_setting (other (.text leaf) nofun) text
  · exact Environment.run_optional_setting (other .schema nofun) text
  · exact Environment.respelled_of_guess? plain
  · rw [list]
    exact Environment.run_wordSet_setting plain
  · obtain ⟨value, guessed⟩ := Option.ne_none_iff_exists'.mp taken
    rw [list]
    exact Environment.run_wordSet_setting_fails guessed

/-- A package and a list of one piece come through as they are. -/
theorem overrides_by_text_plain :
    (∃ changed, loadSettings {} [("CODEGEN__OUTPUT__PACKAGE", "com.acme.models")] none =
        .ok changed ∧ changed.output.package = "com.acme.models") ∧
      ∃ changed, loadSettings {} [("CODEGEN__CODEGEN__NAMING__ACRONYMS", "SKU")] none =
        .ok changed ∧ changed.codegen.naming.acronyms = .ofList ["SKU"] := by
  -- Of each leaf and text, only the name and the outcome of the guess are computed.
  have nothing : loadSettings {} [] none = .ok {} := by decide +kernel
  have package : (Leaf.text .package).variableName = "CODEGEN__OUTPUT__PACKAGE" := by
    decide +kernel
  have acronyms : Leaf.acronyms.variableName = "CODEGEN__CODEGEN__NAMING__ACRONYMS" := by
    decide +kernel
  have plain : ∀ text ∈ ["com.acme.models", "SKU"], Environment.guess? text = none := by
    decide +kernel
  -- Without variables and files the defaults are loaded, so with a variable something is loaded
  -- too.
  constructor
  · have decided := (overrides_by_text {} [] none "com.acme.models").1 .package
    rw [Environment.respelled_of_guess? (plain _ (by simp))] at decided
    obtain ⟨changed, loaded⟩ := decided.loads _ nothing
    have value := decided.gives changed loaded
    rw [package] at loaded
    exact ⟨changed, loaded, value⟩
  · have decided := ((overrides_by_text {} [] none "SKU").2.2.1 (plain _ (by simp))).2
    obtain ⟨changed, loaded⟩ := decided.loads _ nothing
    have value := decided.gives changed loaded
    rw [acronyms] at loaded
    have pieces : WordSet.ofList (Environment.commaPieces "SKU") = .ofList ["SKU"] := by
      decide +kernel
    exact ⟨changed, loaded, value.trans pieces⟩

/-- A directory that can be taken for a number is respelled, and a list of one piece that can be
taken for one cannot be loaded. -/
theorem loadSettings_respells :
    (∃ settings, loadSettings {} [("CODEGEN__OUTPUT__DIRECTORY", "2024.10")] none = .ok settings ∧
      settings.output.directory = "2024.1" ∧ settings.output.directory ≠ "2024.10") ∧
    ∀ settings,
      loadSettings {} [("CODEGEN__CODEGEN__NAMING__ACRONYMS", "42")] none ≠ .ok settings := by
  -- A text that looks like a number comes back as one, and a list is not made from it.
  have respelled : loadSettings {} [("CODEGEN__OUTPUT__DIRECTORY", "2024.10")] none =
      .ok { output := { directory := "2024.1" } } := by
    decide +kernel
  have failed : loadSettings {} [("CODEGEN__CODEGEN__NAMING__ACRONYMS", "42")] none =
      .error (.wrongType (.integer 42) "a sequence") := by
    decide +kernel
  refine ⟨⟨_, respelled, rfl, by decide⟩, fun settings loaded => ?_⟩
  rw [failed] at loaded
  cases loaded

end ContentClasses
