import ContentClasses.Proofs.Settings.Reload

/-! What the files of settings set: those in the working directory, the user's own one and the one
that is given, each of which goes over those before it. -/

namespace ContentClasses

/-- What the file of settings under a name sets, if there is one to read. -/
def FileSystem.FileSets [Host] (files : FileSystem) (name : String)
    (layer : List (String × Setting)) : Prop :=
  ∃ path format text, files.findSettings name = .ok (path, format) ∧
    files.readText path = .ok text ∧ settingsOf? format (files.originOf path) text = some layer

/-- What the file of settings under a name sets, which is nothing if there is none to read. -/
def FileSystem.MaySet [Host] (files : FileSystem) (name : String)
    (layer : List (String × Setting)) : Prop :=
  files.FileSets name layer ∨ layer = [] ∧
    ∀ path format text, files.findSettings name = .ok (path, format) →
      files.readText path ≠ .ok text

/-- Whether a directory is the home of the user: the one that a variable names, or that of the
account where the variable is not set or empty. -/
inductive IsHome [Host] (environment : List (String × String)) : String → Prop
  | named {home : String} : environment.lookup "HOME" = some home → home ≠ "" →
      IsHome environment home
  | ofAccount {home : String} : (∀ other, environment.lookup "HOME" = some other → other = "") →
      Host.accountHome = some home → home ≠ "" → IsHome environment home

/-- Whether a path is that of the user's own file of settings, which lies in the directory that a
variable names with an absolute path, or else in the usual one. -/
inductive IsUserSettings [Host] (environment : List (String × String)) : String → Prop
  | named {home directory : String} : IsHome environment home →
      environment.lookup "XDG_CONFIG_HOME" = some directory → Path.isAbsolute directory = true →
      IsUserSettings environment (Path.join directory "content-codegen/content-codegen.toml")
  | usual {home : String} : IsHome environment home →
      (∀ directory, environment.lookup "XDG_CONFIG_HOME" = some directory →
        Path.isAbsolute directory = false) →
      IsUserSettings environment (Path.join home ".config/content-codegen/content-codegen.toml")

/-- What the user's own file sets, which is nothing if nothing stands at its path. -/
def FileSystem.UserSets [Host] (files : FileSystem) (environment : List (String × String))
    (layer : List (String × Setting)) : Prop :=
  (∃ path, IsUserSettings environment path ∧ files.exists? path = true ∧ files.MaySet path layer) ∨
    layer = [] ∧ ∀ path, IsUserSettings environment path → files.exists? path = false

/-- What a file sets that is given, which has to be there, and nothing if none is given. -/
def FileSystem.GivenSets [Host] (files : FileSystem) :
    Option String → List (String × Setting) → Prop
  | none, layer => layer = []
  | some name, layer => files.FileSets name layer

/-- The user's own file stands in a directory of its own, wherever that is. -/
theorem join_ownDirectory (directory : String) :
    Path.join (Path.join directory "content-codegen") "content-codegen.toml" =
      Path.join directory "content-codegen/content-codegen.toml" :=
  Path.join_join directory (by decide) (by decide) (by decide) (by decide)

section

variable [Host] {files : FileSystem} {name : String}
  {environment : List (String × String)} {layer : List (String × Setting)}

/-- What a file sets is what is read of it. -/
theorem FileSystem.FileSets.read (sets : files.FileSets name layer) (required : Bool) :
    SettingsFile.read ⟨name, required⟩ files = .ok layer := by
  obtain ⟨_, _, _, search, read, given⟩ := sets
  exact SettingsFile.read_of_found search read given

/-- A file that has to be there can be one that need not. -/
theorem FileSystem.FileSets.may (sets : files.FileSets name layer) : files.MaySet name layer :=
  .inl sets

/-- What a file may set is what is read of it if it need not be there. -/
theorem FileSystem.MaySet.read (may : files.MaySet name layer) :
    SettingsFile.read ⟨name, false⟩ files = .ok layer := by
  rcases may with sets | ⟨rfl, unread⟩
  · exact sets.read false
  · -- A file that is found and can be read would be one that sets something.
    refine (SettingsFile.read_optional rfl).resolve_right ?_
    rintro ⟨path, format, text, search, read⟩
    exact unread path format text search read

/-- What is read of a file that has to be there is what it sets. -/
theorem FileSystem.fileSets_of_read (read : SettingsFile.read ⟨name, true⟩ files = .ok layer) :
    files.FileSets name layer := by
  -- Only where the file is found, read and of a known format does it set anything.
  unfold SettingsFile.read at read
  cases search : files.findSettings name with
  | error fault => simp [search] at read
  | ok result =>
    rcases result with ⟨path, format⟩
    cases content : files.readText path with
    | error cause => simp [search, content] at read
    | ok text =>
      cases given : settingsOf? format (files.originOf path) text with
      | none => simp [search, content, given] at read
      | some settings =>
        have same : settings = layer := by
          simpa [search, content, given] using read
        exact ⟨path, format, text, search, content, same ▸ given⟩

/-- The home of the user is the directory that is looked up as such. -/
theorem isHome_iff {home : String} :
    IsHome environment home ↔ homeDirectory? environment = some home := by
  -- A variable that is set and filled decides, and otherwise the account does.
  simp only [homeDirectory?, Option.or_eq_some_iff, Option.filter_eq_some_iff,
    Option.filter_eq_none_iff, decide_eq_true_eq, not_not]
  constructor
  · rintro (⟨set, filled⟩ | ⟨unset, account, filled⟩)
    · exact .inl ⟨set, filled⟩
    · exact .inr ⟨unset, account, filled⟩
  · rintro (⟨set, filled⟩ | ⟨unset, account, filled⟩)
    · exact .named set filled
    · exact .ofAccount unset account filled

/-- A directory with an absolute path that a variable names is the one that is looked up. -/
theorem userSettings?_named {directory : String}
    (set : environment.lookup "XDG_CONFIG_HOME" = some directory)
    (absolute : Path.isAbsolute directory = true) :
    userSettings? environment = (homeDirectory? environment).map fun _ =>
      Path.join directory "content-codegen/content-codegen.toml" := by
  simp only [userSettings?, set, absolute, if_true, join_ownDirectory]

/-- Without such a variable, the usual directory in the home is looked up. -/
theorem userSettings?_usual
    (unset : ∀ directory, environment.lookup "XDG_CONFIG_HOME" = some directory →
      Path.isAbsolute directory = false) :
    userSettings? environment = (homeDirectory? environment).map fun home =>
      Path.join home ".config/content-codegen/content-codegen.toml" := by
  have usual (home : String) : Path.join (Path.join home ".config")
      "content-codegen/content-codegen.toml" =
        Path.join home ".config/content-codegen/content-codegen.toml" :=
    Path.join_join home (by decide) (by decide) (by decide) (by decide)
  simp only [userSettings?, join_ownDirectory]
  congr 1
  funext home
  split
  · rename_i directory set
    rw [if_neg (by simp [unset directory set]), usual]
  · exact usual home

/-- The user's own file of settings is at the path that is looked up for it. -/
theorem isUserSettings_iff {path : String} :
    IsUserSettings environment path ↔ userSettings? environment = some path := by
  constructor
  · rintro (⟨home, set, absolute⟩ | ⟨home, unset⟩)
    · rw [userSettings?_named set absolute, isHome_iff.mp home, Option.map_some]
    · rw [userSettings?_usual unset, isHome_iff.mp home, Option.map_some]
  · intro user
    -- Only an absolute path in the variable takes the place of the usual directory.
    by_cases named : ∃ directory, environment.lookup "XDG_CONFIG_HOME" = some directory ∧
        Path.isAbsolute directory = true
    · obtain ⟨directory, set, absolute⟩ := named
      rw [userSettings?_named set absolute] at user
      obtain ⟨home, there, rfl⟩ := Option.map_eq_some_iff.mp user
      exact .named (isHome_iff.mpr there) set absolute
    · have unset : ∀ directory, environment.lookup "XDG_CONFIG_HOME" = some directory →
          Path.isAbsolute directory = false := by
        simpa using named
      rw [userSettings?_usual unset] at user
      obtain ⟨home, there, rfl⟩ := Option.map_eq_some_iff.mp user
      exact .usual (isHome_iff.mpr there) unset

/-- The settings of more files go over those of the first ones. -/
theorem mergedFiles_append {list : List SettingsFile} {entries merged : List (String × Setting)}
    (first : mergedFiles files list entries = .ok merged) (rest : List SettingsFile) :
    mergedFiles files (list ++ rest) entries = mergedFiles files rest merged := by
  -- Each file is put over what is there, until the first list is done.
  induction list generalizing entries with
  | nil =>
    cases first
    rfl
  | cons file list ih =>
    cases read : file.read files with
    | error fault => simp [mergedFiles_cons_error read] at first
    | ok source =>
      rw [mergedFiles_cons read] at first
      rw [List.cons_append, mergedFiles_cons read, ih first]

/-- The files in the working directory go over each other in their order. -/
theorem mergedFiles_local {plain hidden nested : List (String × Setting)}
    (sets_plain : files.MaySet "content-codegen.toml" plain)
    (sets_hidden : files.MaySet ".content-codegen.toml" hidden)
    (sets_nested : files.MaySet "config/content-codegen.toml" nested) :
    mergedFiles files (localSettings.map fun name => { name := name }) [] =
      .ok (layered nested (layered hidden (layered plain []))) := by
  -- The three files are read in their order, whether they set something or nothing.
  simp only [localSettings, List.map_cons, List.map_nil]
  rw [mergedFiles_cons sets_plain.read, mergedFiles_cons sets_hidden.read,
    mergedFiles_cons sets_nested.read]
  rfl

/-- The user's own file goes over what was there before. -/
theorem mergedFiles_user {user : List (String × Setting)} (sets : files.UserSets environment user)
    (entries : List (String × Setting)) :
    mergedFiles files (((userSettings? environment).toList.filter files.exists?).map
      fun name => { name := name }) entries = .ok (layered user entries) := by
  rcases sets with ⟨path, own, there, sets⟩ | ⟨rfl, missing⟩
  · simp only [isUserSettings_iff.mp own, Option.toList_some, List.filter_cons, there, if_true,
      List.filter_nil, List.map_cons, List.map_nil]
    rw [mergedFiles_cons sets.read]
    rfl
  · -- A file that is not there is not even looked for, which is as if it set nothing.
    cases own : userSettings? environment with
    | none => rfl
    | some path => simp [missing path (isUserSettings_iff.mpr own), mergedFiles, layered]

/-- The file that is given goes over what was there before. -/
theorem mergedFiles_given {extra : Option String} {given : List (String × Setting)}
    (sets : files.GivenSets extra given) (entries : List (String × Setting)) :
    mergedFiles files (extra.toList.map fun name => { name := name, required := true }) entries =
      .ok (layered given entries) := by
  -- Without a path there is no file, and then nothing is set.
  cases extra with
  | none =>
    cases sets
    rfl
  | some path =>
    have given : files.FileSets path given := sets
    rw [Option.toList_some, List.map_cons, mergedFiles_cons (given.read true)]
    rfl

/-- Where five files set something or nothing, their settings are merged in the order in which each
goes over those before it. -/
theorem mergedFiles_layers {extra : Option String}
    {plain hidden nested user given : List (String × Setting)}
    (sets_plain : files.MaySet "content-codegen.toml" plain)
    (sets_hidden : files.MaySet ".content-codegen.toml" hidden)
    (sets_nested : files.MaySet "config/content-codegen.toml" nested)
    (sets_user : files.UserSets environment user) (sets_given : files.GivenSets extra given) :
    mergedFiles files (settingsFiles files environment extra) [] =
      .ok ([plain, hidden, nested, user, given].foldl
        (fun entries layer => layered layer entries) []) := by
  -- The list of files is cut into its three parts, which are merged in turn.
  rw [settingsFiles, List.map_append, List.append_assoc,
    mergedFiles_append (mergedFiles_local sets_plain sets_hidden sets_nested),
    mergedFiles_append (mergedFiles_user sets_user _), mergedFiles_given sets_given]
  rfl

end

end ContentClasses
