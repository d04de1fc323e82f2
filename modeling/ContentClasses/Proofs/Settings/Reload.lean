import ContentClasses.Proofs.Settings.Decode
import ContentClasses.Proofs.Settings.Lookup

/-! Settings that were saved are loaded again as they were. -/

namespace ContentClasses

/-- The settings that a written file gives. -/
def Settings.source (settings : Settings) (origin : String) : List (String × Setting) :=
  Setting.ofTomlEntries origin settings.document

/-- Written settings are what their text gives. -/
theorem settingsOf?_written [Host] (settings : Settings) (origin : String) :
    settingsOf? .toml origin settings.written = some (settings.source origin) := by
  simp [settingsOf?, settings.readDocument_written, Settings.source]

/-- Written settings over nothing, or over themselves from another file, are all there is. -/
theorem layered_source (settings : Settings) (origin : String) (earlier : Option String) :
    layered (settings.source origin) (earlier.elim [] (layerEntries · settings.document)) =
      layerEntries origin settings.document := by
  -- The keys of the written document are known, and none of them has a dot.
  have keyed : keyedEntries settings.document = true := by
    obtain ⟨output, ⟨path⟩, codegen, render⟩ := settings
    cases path <;> rfl
  have plain : ∀ key ∈ settings.document.map (·.1), KeyPath.ofKey key = ⟨key, []⟩ := by
    show ∀ key ∈ ["output", "schema", "codegen", "render"], KeyPath.ofKey key = ⟨key, []⟩
    decide
  exact layered_document keyed plain origin earlier

section

variable [Host] {files : FileSystem} {file : SettingsFile}

/-- The settings of a file go over those that were there before the other files are read. -/
theorem mergedFiles_cons {source : List (String × Setting)} (read : file.read files = .ok source)
    (rest : List SettingsFile) (entries : List (String × Setting)) :
    mergedFiles files (file :: rest) entries = mergedFiles files rest (layered source entries) := by
  simp [mergedFiles, read]

/-- Nothing is read after a file that cannot be read. -/
theorem mergedFiles_cons_error {fault : SettingsFault} (failed : file.read files = .error fault)
    (rest : List SettingsFile) (entries : List (String × Setting)) :
    mergedFiles files (file :: rest) entries = .error fault := by
  simp [mergedFiles, failed]

/-- A given file is read after all others. -/
theorem settingsFiles_some (files : FileSystem) (environment : List (String × String))
    (path : String) :
    settingsFiles files environment (some path) =
      settingsFiles files environment none ++ [⟨path, true⟩] := by
  simp [settingsFiles]

end

/-- Files that give nothing or the same written settings give those settings, if any does. -/
theorem mergedFiles_written [Host] {files : FileSystem} {settings : Settings}
    {optional : List SettingsFile} {extra : SettingsFile}
    (others : ∀ file ∈ optional,
      file.read files = .ok [] ∨ ∃ origin, file.read files = .ok (settings.source origin))
    {origin : String} (last : extra.read files = .ok (settings.source origin))
    (earlier : Option String) :
    mergedFiles files (optional ++ [extra]) (earlier.elim [] (layerEntries · settings.document)) =
      .ok (layerEntries origin settings.document) := by
  -- Before each file there is nothing yet, or what an earlier file with the same text gave.
  induction optional generalizing earlier with
  | nil => rw [List.nil_append, mergedFiles_cons last, layered_source, mergedFiles]
  | cons file optional ih =>
    have later := ih fun other among => others other (.tail _ among)
    rw [List.cons_append]
    rcases others file (.head _) with nothing | ⟨origin, same⟩
    · rw [mergedFiles_cons nothing]
      exact later earlier
    · rw [mergedFiles_cons same, layered_source]
      exact later (some origin)

/-- Whether no file of settings is found in the usual places but the one at a path. -/
def FileSystem.OnlySettings [Host] (files : FileSystem) (environment : List (String × String))
    (path : String) : Prop :=
  ∀ file ∈ settingsFiles files environment none, ∀ found format,
    files.findSettings file.name = .ok (found, format) →
      files.placeOf found = files.placeOf path

namespace SettingsFile

variable [Host] {file : SettingsFile} {files : FileSystem} {found text : String}
  {format : SettingsFormat}

/-- A file that is found and has settings in its format is read as those settings. -/
theorem read_of_found {layer : List (String × Setting)}
    (search : files.findSettings file.name = .ok (found, format))
    (read : files.readText found = .ok text)
    (given : settingsOf? format (files.originOf found) text = some layer) :
    file.read files = .ok layer := by
  unfold SettingsFile.read
  simp [search, read, given]

/-- A file that need not be there gives nothing, or it is found and its text can be read. -/
theorem read_optional (optional : file.required = false) :
    file.read files = .ok [] ∨ ∃ found format text,
      files.findSettings file.name = .ok (found, format) ∧ files.readText found = .ok text := by
  -- Whatever goes wrong, a file that may be missing is passed over.
  unfold SettingsFile.read
  cases search : files.findSettings file.name with
  | error fault => exact .inl (by simp [optional])
  | ok result =>
    rcases result with ⟨found, format⟩
    cases read : files.readText found with
    | error cause =>
      exact .inl (by simp [read, optional])
    | ok text => exact .inr ⟨found, format, text, rfl, read⟩

end SettingsFile

/-- Without variables that have settings, the environment has none. -/
theorem settings_environment {environment : List (String × String)}
    (unset : ∀ entry ∈ environment, Environment.settingKey? entry.1 = none) :
    Environment.settings environment = [] := by
  simp only [Environment.settings, List.filterMap_eq_nil_iff]
  exact fun entry among => by simp [unset entry among]

/-- A path that ends in `.toml`, but not in a name that is this ending only, ends in a name with
something in front of the ending, which is not made of dots. -/
theorem exists_last_toml {opening : String}
    (named : (Path.steps (opening ++ ".toml")).getLast? ≠ some ".toml") :
    ∃ first, (Path.steps (opening ++ ".toml")).getLast? = some (first ++ ".toml") ∧ first ≠ "" ∧
      first ++ ".toml" ≠ "." ∧ first ++ ".toml" ≠ ".." := by
  obtain ⟨_, first, steps⟩ := Path.steps_append_name opening (show ".toml" ≠ "" by decide)
    (by decide)
  have last : (Path.steps (opening ++ ".toml")).getLast? = some (first ++ ".toml") := by
    rw [steps, List.getLast?_concat]
  refine ⟨first, last, ?_, ?_⟩
  · rintro rfl
    exact named last
  · -- Names of dots end in a dot, and this one does not.
    constructor <;>
    · intro same
      have ends := congrArg (fun name => name.toList.getLast?) same
      simp at ends

section

variable [Host] {settings : Settings} {files saved : FileSystem} {path opening : String}

/-- The file under a path is read as settings if its text is the written form of them. -/
theorem read_extra (read : saved.readText (Path.join saved.workingPath path) = .ok settings.written)
    (shown : pathEnding? (Path.join saved.workingPath path) = some "toml") :
    ∃ origin, SettingsFile.read ⟨path, true⟩ saved = .ok (settings.source origin) := by
  have found : saved.findSettings path = .ok (Path.join saved.workingPath path, .toml) :=
    FileSystem.findSettings_of_isFile (FileSystem.isFile_of_readText read) shown (.head _)
  exact ⟨_, SettingsFile.read_of_found found read (settingsOf?_written settings _)⟩

/-- A file that need not be there gives nothing, or the settings at the place where it is. -/
theorem read_other {place : Location}
    (stands : saved.tree.get? place = some (.text settings.written))
    (ends : place.getLast? = some (opening ++ ".toml")) (filled : opening ≠ "")
    {file : SettingsFile} (optional : file.required = false)
    (only : ∀ found format, saved.findSettings file.name = .ok (found, format) →
      saved.placeOf found = place) :
    file.read saved = .ok [] ∨ ∃ origin, file.read saved = .ok (settings.source origin) := by
  refine (SettingsFile.read_optional optional).imp_right ?_
  rintro ⟨found, format, text, search, read⟩
  have same := only found format search
  obtain ⟨_, _, _, holds⟩ := FileSystem.readText_ok read
  rw [same, stands] at holds
  -- It is the same file, so its text and its format are the same as well.
  obtain rfl := Entry.text.inj (Option.some.inj holds)
  obtain rfl := FileSystem.findSettings_toml search read filled (same ▸ ends)
  exact ⟨_, SettingsFile.read_of_found search read (settingsOf?_written settings _)⟩

/-- Only the file that is given has to be there. -/
theorem required_of_mem_settingsFiles {environment : List (String × String)} {file : SettingsFile}
    (among : file ∈ settingsFiles saved environment none) : file.required = false := by
  simp only [settingsFiles, Option.toList_none, List.map_nil, List.append_nil, List.mem_map]
    at among
  obtain ⟨_, _, rfl⟩ := among
  rfl

/-- Settings that were saved under a path that ends in `.toml` are loaded from there as they were,
if no other file and no variable has settings. -/
theorem loadSettings_save {environment : List (String × String)}
    (written : settings.save files path = .ok saved) (toml : ∃ opening, path = opening ++ ".toml")
    (named : (Path.steps path).getLast? ≠ some ".toml")
    (short : (Path.join files.workingPath path).utf8ByteSize ≤ FileSystem.maxPath)
    (rooted : files.Rooted)
    (unset : ∀ entry ∈ environment, Environment.settingKey? entry.1 = none)
    (only : saved.OnlySettings environment path) :
    loadSettings saved environment (some path) = .ok settings := by
  obtain ⟨opening, rfl⟩ := toml
  obtain ⟨first, last, filled, dots⟩ := exists_last_toml named
  -- The file is found under its full path, and its name shows its format.
  have base : saved.workingPath = files.workingPath := by
    simp only [FileSystem.workingPath, (FileSystem.writeText_grows written).workingDirectory]
  have read := FileSystem.readText_writeText (FileSystem.writeText_join rooted short written)
  have shown : pathEnding? (Path.join files.workingPath (opening ++ ".toml")) = some "toml" := by
    have component := Path.getLast?_components
      (Path.getLast?_steps_join files.workingPath last) dots.1
    exact pathEnding?_eq_some (by simpa [String.append_assoc] using component) filled (by decide)
      (by decide)
  rw [← base] at read shown
  obtain ⟨origin, extra⟩ := read_extra read shown
  -- Whatever other file is found, it is the same one.
  have direct := FileSystem.readText_writeText written
  obtain ⟨_, _, _, stands⟩ := FileSystem.readText_ok direct
  have ends := (FileSystem.readText_last direct last).2 dots.2
  have others : ∀ file ∈ settingsFiles saved environment none,
      file.read saved = .ok [] ∨ ∃ origin, file.read saved = .ok (settings.source origin) := by
    intro file among
    exact read_other stands ends filled (required_of_mem_settingsFiles among) (only file among)
  -- Merged with all of them, the file is still all there is.
  have merged := mergedFiles_written others extra none
  simp only [Option.elim_none] at merged
  simp only [loadSettings, settingsFiles_some, merged, ok_bind,
    settings_environment unset]
  exact Decode.run_settingsShape origin settings

end

/-- Where there is no other file, no other one is found. -/
theorem FileSystem.onlySettings_of_single [Host] {files : FileSystem} {path : String}
    (single : ∀ place entry, files.tree.get? place = some entry → entry ≠ .directory →
      place = files.placeOf path) (environment : List (String × String)) :
    files.OnlySettings environment path := by
  intro _ _ found format search
  obtain ⟨_, entry, stands, file⟩ := isFile_place (isFile_of_findSettings search)
  exact single _ entry stands file

/-- A file system with texts in an otherwise empty working directory. -/
def FileSystem.workplace (texts : List (String × String)) : FileSystem where
  tree := ⟨(["work"], .directory) :: texts.map fun (name, text) => (["work", name], .text text)⟩
  workingDirectory := ["work"]

/-- The only text in a working directory is the only one that is found. -/
theorem FileSystem.onlySettings_workplace [Host] {name text path : String}
    (place : (workplace [(name, text)]).placeOf path = ["work", name])
    (environment : List (String × String)) :
    (workplace [(name, text)]).OnlySettings environment path := by
  refine onlySettings_of_single (fun other entry stands file => ?_) environment
  rw [place]
  simp only [workplace, Tree.get?, List.map_cons, List.map_nil, List.lookup_cons] at stands
  -- The root and the working directory are no files.
  split at stands
  · cases stands
    exact absurd rfl file
  · split at stands
    · cases stands
      exact absurd rfl file
    · split at stands
      · rename_i same
        simpa using same
      · cases stands

/-- Settings with quotes, line feeds and lists come back from a file. -/
theorem loadSettings_save_quoted :
    let settings : Settings := {
      output := { directory := "C:\\out\n\"''' #" }
      schema := { path := some "types.json" }
      codegen := { naming := { acronyms := .ofList ["URL", "SKU"] } } }
    ∃ saved, settings.save (.workplace []) "saved.toml" = .ok saved ∧
      saved.OnlySettings [] "saved.toml" ∧
      loadSettings saved [] (some "saved.toml") = .ok settings := by
  -- Nothing was in the directory before, so the saved file is the only one.
  intro settings
  have written : settings.save (.workplace []) "saved.toml" =
      .ok (.workplace [("saved.toml", settings.written)]) := rfl
  have rooted : (FileSystem.workplace []).Rooted := rfl
  have only : (FileSystem.workplace [("saved.toml", settings.written)]).OnlySettings []
      "saved.toml" := FileSystem.onlySettings_workplace rfl []
  exact ⟨_, written, only, loadSettings_save written ⟨"saved", rfl⟩ (by decide) (by decide) rooted
    nofun only⟩

section

variable [Host] {files : FileSystem} {path : String} {fault : SettingsFault}

/-- Nothing is loaded if the last file cannot be read. -/
theorem mergedFiles_fails {extra : SettingsFile} (failed : extra.read files = .error fault)
    (optional : List SettingsFile) (entries merged : List (String × Setting)) :
    mergedFiles files (optional ++ [extra]) entries ≠ .ok merged := by
  -- The last file is reached only if all before it could be read, and then it fails.
  induction optional generalizing entries with
  | nil => simp [mergedFiles_cons_error failed]
  | cons file optional ih =>
    cases read : file.read files with
    | error other => simp [mergedFiles_cons_error read]
    | ok source => simpa [mergedFiles_cons read] using ih (layered source entries)

/-- Nothing is loaded if no file of settings is found under the path that is given. -/
theorem loadSettings_fails (search : files.findSettings path = .error fault)
    (environment : List (String × String)) (settings : Settings) :
    loadSettings files environment (some path) ≠ .ok settings := by
  -- The file that is given must be there.
  have failed : (SettingsFile.mk path true).read files = .error fault := by
    unfold SettingsFile.read
    simp [search]
  intro loaded
  rw [loadSettings, settingsFiles_some] at loaded
  -- The other files are merged first, and may fail before it.
  cases merged : mergedFiles files (settingsFiles files environment none ++ [⟨path, true⟩]) [] with
  | error other => simp [merged] at loaded
  | ok entries => exact mergedFiles_fails failed _ _ _ merged

end

/-- A path to a file in the working directory in which so many slashes more stand for one. -/
def slashedPath (count : Nat) : String :=
  "." ++ String.ofList (List.replicate count '/') ++ "/x.toml"

/-- Slashes between names make no steps. -/
theorem steps_slashedPath (count : Nat) : Path.steps (slashedPath count) = [".", "x.toml"] := by
  -- Between two slashes there is no step, however many follow.
  have opening : pieces '/' ('.' :: List.replicate count '/') = [['.']] := by
    induction count with
    | zero => rfl
    | succ count ih =>
      rw [List.replicate_succ', ← List.cons_append, pieces_append_cons, ih, pieces_nil]
      rfl
  have whole : (slashedPath count).toList =
      ('.' :: List.replicate count '/') ++ '/' :: "x.toml".toList := by
    simp [slashedPath]
  rw [Path.steps_eq, whole, pieces_append_cons, opening]
  rfl

/-- Every slash takes a byte. -/
theorem utf8ByteSize_slashedPath (count : Nat) : (slashedPath count).utf8ByteSize = count + 8 := by
  -- A slash has one byte, and so have the letters around them.
  have slashes : (String.ofList (List.replicate count '/')).utf8ByteSize = count := by
    induction count with
    | zero => rfl
    | succ count ih =>
      rw [List.replicate_succ, ← List.singleton_append, String.ofList_append,
        String.utf8ByteSize_append, ih, Nat.add_comm]
      rfl
  rw [slashedPath, String.utf8ByteSize_append, String.utf8ByteSize_append, slashes]
  show 1 + count + 7 = count + 8
  omega

/-- A path with slashes does not start at the root. -/
theorem isAbsolute_slashedPath (count : Nat) : Path.isAbsolute (slashedPath count) = false := by
  simp [slashedPath, Path.isAbsolute]

/-- Slashes do not hinder writing as long as they are not too many. -/
theorem writeText_slashedPath {count : Nat} (few : count + 8 ≤ FileSystem.maxPath)
    (content : String) :
    (FileSystem.workplace []).writeText (slashedPath count) content =
      .ok (.workplace [("x.toml", content)]) := by
  -- The path is short enough to be asked for, and ends in a name.
  have allowed : FileSystem.admitted (slashedPath count) = .ok () := by
    refine FileSystem.admitted_iff.mpr ⟨?_, ?_, by rwa [utf8ByteSize_slashedPath]⟩
    · simp [slashedPath, List.mem_replicate]
    · simp [slashedPath]
  have slash : Path.endsInSlash (slashedPath count) = false := by
    simp [slashedPath, Path.endsInSlash, List.getLast?_cons, List.getLast?_append]
  simp only [FileSystem.writeText, FileSystem.siteOf, allowed, steps_slashedPath,
    FileSystem.startOf, isAbsolute_slashedPath, slash]
  rfl

/-- Slashes that are too many for the full path hide the file. -/
theorem findSettings_slashedPath [Host] {count : Nat} (many : FileSystem.maxPath < count + 14)
    (content : String) :
    (FileSystem.workplace [("x.toml", content)]).findSettings (slashedPath count) =
      .error (.missingFile (slashedPath count)) := by
  -- The working directory stands in front of the slashes.
  have relative := isAbsolute_slashedPath count
  have size : (Path.join "/work" (slashedPath count)).utf8ByteSize = count + 14 := by
    rw [Path.join, if_neg (by simp [relative]), if_neg (by decide), String.utf8ByteSize_append,
      utf8ByteSize_slashedPath]
    show 6 + (count + 8) = count + 14
    omega
  have letters : (Path.join "/work" (slashedPath count)).toList =
      ("/work/.".toList ++ List.replicate count '/' ++ "/x.tom".toList) ++ ['l'] := by
    rw [Path.join, if_neg (by simp [relative]), if_neg (by decide)]
    simp [slashedPath]
  -- What is found must have a path that is short enough.
  have hidden (found : String) (long : FileSystem.maxPath < found.utf8ByteSize) :
      (FileSystem.workplace [("x.toml", content)]).isFile found = false := by
    by_contra file
    have allowed := (FileSystem.isFile_place (by simpa using file)).1
    have short := (FileSystem.admitted_iff.mp allowed).2.2
    omega
  -- The full path is too long to be looked up, and an ending makes it longer.
  have ended (ending : String) : FileSystem.maxPath <
      (withEnding (Path.join "/work" (slashedPath count)) ending).utf8ByteSize := by
    have longer := le_withEnding (Path.trimmed_eq_self letters (by decide) (by decide)) ending
    omega
  have base : (FileSystem.workplace [("x.toml", content)]).workingPath = "/work" := rfl
  exact FileSystem.findSettings_missing (by rw [base, hidden _ (size ▸ many)])
    fun ending => by rw [base, hidden _ (ended ending)]

/-- Settings that were saved are not loaded from a name that is an ending only, nor from a path that
gets too long behind the working directory. -/
theorem loadSettings_save_fails :
    let settings : Settings := {}
    (∃ saved, settings.save (.workplace []) ".toml" = .ok saved ∧
      saved.OnlySettings [] ".toml" ∧
      ∀ loaded, loadSettings saved [] (some ".toml") ≠ .ok loaded) ∧
    ∃ saved, settings.save (.workplace []) (slashedPath 4087) = .ok saved ∧
      saved.OnlySettings [] (slashedPath 4087) ∧
      ∀ loaded, loadSettings saved [] (some (slashedPath 4087)) ≠ .ok loaded := by
  intro settings
  -- A name that is an ending only has no format of its own.
  constructor
  · have search : (FileSystem.workplace [(".toml", settings.written)]).findSettings ".toml" =
        .error (.unknownFormat "/work/.toml") := by
      have base : (FileSystem.workplace [(".toml", settings.written)]).workingPath = "/work" := rfl
      have whole : Path.join "/work" ".toml" = "/work/.toml" := by decide
      have there : (FileSystem.workplace [(".toml", settings.written)]).isFile "/work/.toml" =
        true := rfl
      have shown : pathEnding? "/work/.toml" = none := by decide
      simp [FileSystem.findSettings, base, whole, there, shown]
    have written : settings.save (.workplace []) ".toml" =
        .ok (.workplace [(".toml", settings.written)]) := rfl
    exact ⟨_, written, FileSystem.onlySettings_workplace rfl [], loadSettings_fails search []⟩
  · -- The slashes lead nowhere, so the file is the same one.
    have place : (FileSystem.workplace [("x.toml", settings.written)]).placeOf
        (slashedPath 4087) = ["work", "x.toml"] := by
      rw [FileSystem.placeOf, steps_slashedPath, FileSystem.startOf, isAbsolute_slashedPath]
      rfl
    exact ⟨_, writeText_slashedPath (by decide) settings.written,
      FileSystem.onlySettings_workplace place [],
      loadSettings_fails (findSettings_slashedPath (by decide) settings.written) []⟩

end ContentClasses
