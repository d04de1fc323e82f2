import ContentClasses.Files.Cause
import ContentClasses.Files.Path
import ContentClasses.Files.Tree

/-! Operations on files by path, with the refusals of a file system without links and permissions.
-/

namespace ContentClasses

/-- A tree with the directory that relative paths start from. -/
structure FileSystem where
  tree : Tree := {}
  workingDirectory : Location := []
  deriving DecidableEq, Inhabited

namespace FileSystem

/-- The greatest number of bytes in a name. -/
def maxName : Nat := 255

/-- The greatest number of bytes in a path. -/
def maxPath : Nat := 4095

/-- Refuses paths that no operation accepts. -/
def admitted (path : String) : Except IoCause Unit :=
  if path.toList.contains '\x00' then .error .nulInName
  else if path.isEmpty then .error .notFound
  else if maxPath < path.utf8ByteSize then .error .nameTooLong
  else .ok ()

/-- The place that steps lead to from a given one, all of which must be there. -/
def walk (tree : Tree) : Location → List String → Except IoCause Location
  | place, [] => .ok place
  | place, step :: rest =>
    if !tree.isDirectory place then .error .notDirectory
    else if step = "." then walk tree place rest
    else if step = ".." then walk tree place.dropLast rest
    else if maxName < step.utf8ByteSize then .error .nameTooLong
    else if (tree.get? (place ++ [step])).isNone then .error .notFound
    else walk tree (place ++ [step]) rest

/-- The place that a path starts from. -/
def startOf (files : FileSystem) (path : String) : Location :=
  if Path.isAbsolute path then [] else files.workingDirectory

/-- The place of a path, and what stands there. -/
def locate (files : FileSystem) (path : String) : Except IoCause (Location × Entry) := do
  admitted path
  let place ← walk files.tree (files.startOf path) (Path.steps path)
  match files.tree.get? place with
  | none => throw .notFound
  | some .directory => return (place, .directory)
  -- A slash at the end asks for a directory.
  | some entry => if Path.endsInSlash path then throw .notDirectory else return (place, entry)

/-- What stands at a path, if it can be told. -/
def entry? (files : FileSystem) (path : String) : Option Entry :=
  match files.locate path with
  | .ok (_, entry) => some entry
  | .error _ => none

/-- Whether something stands at a path. -/
def exists? (files : FileSystem) (path : String) : Bool := (files.entry? path).isSome

/-- Whether a directory stands at a path. -/
def isDirectory (files : FileSystem) (path : String) : Bool :=
  files.entry? path = some .directory

/-- Whether a file stands at a path. -/
def isFile (files : FileSystem) (path : String) : Bool :=
  match files.entry? path with
  | some .directory | none => false
  | some _ => true

/-- The text of the file at a path. -/
def readText (files : FileSystem) (path : String) : Except IoCause String := do
  match ← files.locate path with
  | (_, .directory) => throw .isDirectory
  | (_, .text content) => return content
  | (_, .bytes _) => throw .notUtf8

/-- The directory in which the last step of a path is to be made, and that step. -/
def siteOf (files : FileSystem) (path : String) : Except IoCause (Location × Option String) := do
  admitted path
  let steps := Path.steps path
  let place ← walk files.tree (files.startOf path) steps.dropLast
  if files.tree.isDirectory place then return (place, steps.getLast?) else throw .notDirectory

/-- Whether a step names no entry of its own. -/
def isDots (step : String) : Bool := step = "." || step = ".."

/-- Makes one directory. -/
def createDirectory (files : FileSystem) (path : String) : Except IoCause FileSystem := do
  let (place, last) ← files.siteOf path
  match last with
  | none => throw .alreadyThere
  | some name =>
    if isDots name then throw .alreadyThere
    else if maxName < name.utf8ByteSize then throw .nameTooLong
    else if (files.tree.get? (place ++ [name])).isSome then throw .alreadyThere
    else return { files with tree := files.tree.put (place ++ [name]) .directory }

/-- Writes a text file, in place of a file that is there already. -/
def writeText (files : FileSystem) (path content : String) : Except IoCause FileSystem := do
  let (place, last) ← files.siteOf path
  match last with
  | none => throw .isDirectory
  | some name =>
    if isDots name || Path.endsInSlash path then throw .isDirectory
    else if maxName < name.utf8ByteSize then throw .nameTooLong
    else if files.tree.isDirectory (place ++ [name]) then throw .isDirectory
    else return { files with tree := files.tree.put (place ++ [name]) (.text content) }

/-- Makes the directory at the first path given, after those above it where they are missing. -/
def createOutward (files : FileSystem) : List String → Except IoCause Unit × FileSystem
  | [] => (.error .nothingToCreate, files)
  | path :: outer =>
    if path.isEmpty then (.ok (), files)
    else match files.createDirectory path with
      | .ok made => (.ok (), made)
      | .error .notFound =>
        match files.createOutward outer with
        | (.error cause, reached) => (.error cause, reached)
        | (.ok (), reached) =>
          match reached.createDirectory path with
          | .ok made => (.ok (), made)
          | .error cause =>
            if reached.isDirectory path then (.ok (), reached) else (.error cause, reached)
      | .error cause => if files.isDirectory path then (.ok (), files) else (.error cause, files)

/-- Makes a directory with all directories above it; what was made before a failure stays. -/
def createDirectories (files : FileSystem) (path : String) : Except IoCause Unit × FileSystem :=
  files.createOutward (path :: Path.ancestors path)

/-- Makes the directory that a path lies in, with all directories above it. -/
def createDirectoriesAbove (files : FileSystem) (path : String) :
    Except IoCause Unit × FileSystem :=
  match Path.parent? path with
  | some parent => files.createDirectories parent
  | none => (.ok (), files)

end FileSystem

end ContentClasses
