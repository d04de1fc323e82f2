import ContentClasses.Files.System
import ContentClasses.Settings.Decode
import ContentClasses.Settings.Environment
import ContentClasses.Settings.Host

/-! Loading the settings from all files that may hold some and from the environment. -/

namespace ContentClasses

/-- The ending of the last name in a path, after a dot that is not its first character. -/
def pathEnding? (path : String) : Option String :=
  match (Path.components path).getLast? with
  | none => none
  | some name =>
    match (name.toList.reverse.takeWhile (· ≠ '.')).reverse,
        (name.toList.reverse.dropWhile (· ≠ '.')) with
    | ending, _ :: _ :: _ => if name = ".." then none else some (String.ofList ending)
    | _, _ => none

/-- A path with an ending added to its last name. -/
def withEnding (path ending : String) : String :=
  match (Path.components path).getLast? with
  | none => path
  | some name =>
    if name = ".." then path
    else Path.trimmed path ++ "." ++ ending

/-- The path of the working directory. -/
def FileSystem.workingPath (files : FileSystem) : String :=
  Path.ofComponents true files.workingDirectory

/-- How a path is named where settings came from it: by its way from the working directory. -/
def FileSystem.originOf (files : FileSystem) (path : String) : String :=
  Path.ofComponents false (Path.between files.workingDirectory (Path.components path))

/-- The files of settings that belong to the working directory, the weakest first. -/
def localSettings : List String :=
  ["content-codegen.toml", ".content-codegen.toml", "config/content-codegen.toml"]

/-- A file that may hold settings. -/
structure SettingsFile where
  name : String
  /-- Whether the file has to be there. -/
  required : Bool := false

variable [Host]

/-- The file of settings with a name, or with an ending added to the name, and its format. -/
def FileSystem.findSettings (files : FileSystem) (name : String) :
    Except SettingsFault (String × SettingsFormat) :=
  let path := Path.join files.workingPath name
  if files.isFile path then
    match (pathEnding? path).bind fun ending => formatEndings.lookup ending with
    | some format => .ok (path, format)
    | none => .error (.unknownFormat path)
  else
    match formatEndings.find? fun (ending, _) => files.isFile (withEnding path ending) with
    | some (ending, format) => .ok (withEnding path ending, format)
    | none => .error (.missingFile name)

/-- The settings in a file, none of them if a file that need not be there cannot be read. -/
def SettingsFile.read (file : SettingsFile) (files : FileSystem) :
    Except SettingsFault (List (String × Setting)) :=
  let content : Except SettingsFault (String × SettingsFormat × String) := do
    let (path, format) ← files.findSettings file.name
    let text ← (files.readText path).mapError .unreadable
    return (path, format, text)
  match content with
  | .error fault => if file.required then .error fault else .ok []
  | .ok (path, format, text) =>
    match settingsOf? format (files.originOf path) text with
    | some settings => .ok settings
    | none => .error (.malformed (files.originOf path))

/-- The user's own file of settings, if there is a directory for it. -/
def userSettings? (environment : List (String × String)) : Option String :=
  (homeDirectory? environment).map fun home =>
    let directory := match environment.lookup "XDG_CONFIG_HOME" with
      | some directory =>
        if Path.isAbsolute directory then directory else Path.join home ".config"
      | none => Path.join home ".config"
    Path.join (Path.join directory "content-codegen") "content-codegen.toml"

/-- The files that may hold settings, the weakest first. -/
def settingsFiles (files : FileSystem) (environment : List (String × String))
    (extra : Option String) : List SettingsFile :=
  let user := (userSettings? environment).toList.filter files.exists?
  (localSettings ++ user).map (fun name => { name := name }) ++
    extra.toList.map fun name => { name := name, required := true }

/-- The settings of all files over each other. -/
def mergedFiles (files : FileSystem) : List SettingsFile → List (String × Setting) →
    Except SettingsFault (List (String × Setting))
  | [], entries => .ok entries
  | file :: rest, entries => do
    let source ← file.read files
    mergedFiles files rest (layered source entries)

/-- Loads the settings; those of the environment go over those of all files. -/
def loadSettings (files : FileSystem) (environment : List (String × String))
    (extra : Option String) : Except SettingsFault Settings := do
  let entries ← mergedFiles files (settingsFiles files environment extra) []
  let merged := layered (Environment.settings environment) entries
  (settingsShape : Decode Settings).run (.table merged none)

end ContentClasses
