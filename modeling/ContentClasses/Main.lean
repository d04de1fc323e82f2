import ContentClasses.CommandLine.Run

/-! The command on the files of the disk: they are looked at, the call is made, and its changes are
written back. -/

namespace ContentClasses.CommandLine

/-- What stands at a place on the disk. -/
def entryOnDisk? (place : Location) : IO (Option Entry) := do
  try
    let path ← IO.FS.realPath (Path.ofComponents true place)
    if ← path.isDir then return some .directory
    let bytes ← IO.FS.readBinFile path
    match String.fromUTF8? bytes with
    | some text => return some (.text text)
    | none => return some (.bytes bytes.toList)
  catch _ => return none

/-- The tree with everything that stands on the way to a place. -/
def lookAt (tree : Tree) (place : Location) : IO Tree := do
  let mut seen := tree
  for count in List.range place.length do
    let part := place.take (count + 1)
    if (seen.get? part).isNone then
      if let some entry ← entryOnDisk? part then seen := seen.put part entry
  return seen

/-- The place that steps lead to, whatever stands on the way. -/
def placeAfter (start : Location) (steps : List String) : Location :=
  steps.foldl (fun place step =>
    if step = "." then place else if step = ".." then place.dropLast else place ++ [step]) start

/-- The files with everything that stands on the way to paths. -/
def lookAtPaths (files : FileSystem) (paths : List String) : IO FileSystem := do
  let tree ← paths.foldlM (fun tree path =>
    lookAt tree (placeAfter (files.startOf path) (Path.steps path))) files.tree
  return { files with tree }

/-- The paths at which settings are searched for. -/
def settingsPaths (options : Options) (environment : List (String × String)) : List String :=
  (localSettings ++ (userSettings? environment).toList ++ options.config.toList).flatMap fun name =>
    name :: formatEndings.map fun (ending, _) => withEnding name ending

/-- The files as far as a call depends on them before it writes anything. -/
def filesFor (arguments : List String) (environment : List (String × String))
    (files : FileSystem) : IO FileSystem := do
  let .ok options := readArguments arguments | return files
  let files ← lookAtPaths files (settingsPaths options environment)
  let .ok loaded := loadSettings files environment options.config | return files
  let settings := options.onto loaded
  lookAtPaths files (settings.output.directory :: settings.schema.path.toList)

/-- The entries that a call made or changed. -/
def changes (before after : FileSystem) : List (Location × Entry) :=
  after.tree.entries.filter fun (place, entry) => before.tree.get? place ≠ some entry

/-- Makes a call, again if it would write where something stands that was not looked at yet. -/
partial def callOnDisk (arguments : List String) (environment : List (String × String))
    (files : FileSystem) : IO (FileSystem × Outcome) := do
  let outcome := call arguments environment files
  let places := (changes files outcome.files).map (·.1)
  let tree ← places.foldlM lookAt files.tree
  if tree.entries.length = files.tree.entries.length then return (files, outcome)
  else callOnDisk arguments environment { files with tree }

/-- Writes an entry to the disk. -/
def writeToDisk (place : Location) (entry : Entry) : IO Unit := do
  let path := Path.ofComponents true place
  match entry with
  | .directory => IO.FS.createDirAll path
  | .text content => IO.FS.writeFile path content
  | .bytes content => IO.FS.writeBinFile path ⟨content.toArray⟩

/-- The variables of the environment, as the kernel shows them to a process. -/
def environmentVariables : IO (List (String × String)) := do
  let bytes ← try IO.FS.readBinFile "/proc/self/environ" catch _ => pure ByteArray.empty
  let texts := (bytes.toList.splitOn 0).filterMap fun part => String.fromUTF8? ⟨part.toArray⟩
  return texts.filterMap fun text =>
    match text.toList.span (· ≠ '=') with
    | (name, '=' :: value) => some (String.ofList name, String.ofList value)
    | _ => none

/-- Makes a call on the disk and answers its exit code. -/
def runOnDisk (arguments : List String) : IO UInt32 := do
  let environment ← environmentVariables
  let workingDirectory := Path.steps (← IO.currentDir).toString
  let start : FileSystem := { tree := ← lookAt {} workingDirectory, workingDirectory }
  let files ← filesFor arguments environment start
  let (before, outcome) ← callOnDisk arguments environment files
  for (place, entry) in changes before outcome.files do
    writeToDisk place entry
  (← IO.getStdout).putStr outcome.stdout
  (← IO.getStderr).putStr outcome.stderr
  return UInt32.ofNat outcome.exitCode

end ContentClasses.CommandLine

/-- Runs the command. -/
def main (arguments : List String) : IO UInt32 :=
  ContentClasses.CommandLine.runOnDisk arguments
