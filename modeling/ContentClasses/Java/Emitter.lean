import ContentClasses.Generation.Run
import ContentClasses.Java.Source

/-! Writing Java sources to files, one for each class, in the directory of their package. -/

namespace ContentClasses.Java

/-- Where sources go and how they are written. -/
structure Target where
  output : OutputDirectory
  package : String
  profile : Profile := {}

/-- What writing sources depends on and changes. -/
structure Workspace where
  files : FileSystem
  /-- The class names of the batch that was announced last. -/
  siblings : List String := []

namespace Target

/-- The path of the file for a class. -/
def filePath (target : Target) (spec : ClassSpec) : String :=
  Path.join (target.output.packageDirectory target.package) (spec.name ++ ".java")

/-- The source of a class among the classes announced last. -/
def source (target : Target) (siblings : List String) (spec : ClassSpec) : String :=
  renderClass spec target.package target.profile siblings

/-- Writes the file for a class after making the directories above it. -/
def writeFile (target : Target) (space : Workspace) (spec : ClassSpec) :
    Except IoCause String × Workspace :=
  let path := target.filePath spec
  match space.files.createDirectoriesAbove path with
  | (.error cause, reached) => (.error cause, { space with files := reached })
  | (.ok (), reached) =>
    match reached.writeText path (target.source space.siblings spec) with
    | .error cause => (.error cause, { space with files := reached })
    | .ok final => (.ok path, { space with files := final })

/-- The emitter of sources to files. -/
def emitter (target : Target) : Emitter Workspace where
  announce space specs := { space with siblings := specs.map (·.name) }
  write := target.writeFile

end Target

end ContentClasses.Java
