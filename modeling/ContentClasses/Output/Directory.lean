import ContentClasses.Files.System

/-! The directory that generated sources go to, which is prepared before anything else is done. -/

namespace ContentClasses

/-- Why a path cannot be the output directory. -/
inductive OutputFault where
  | notDirectory
  | cannotCreate (cause : IoCause)
  deriving DecidableEq, Repr

/-- The text of the reason. -/
def OutputFault.message : OutputFault → String
  | .notDirectory => "exists and is not a directory"
  | .cannotCreate cause => "unable to create directory: " ++ cause.message

/-- A directory that was prepared for output. -/
structure OutputDirectory where
  root : String
  deriving DecidableEq, Repr

namespace OutputDirectory

/-- Refuses a path at which something other than a directory stands. -/
def check (files : FileSystem) (path : String) : Except OutputFault Unit :=
  if files.exists? path && !files.isDirectory path then .error .notDirectory else .ok ()

/-- Makes the directory if nothing stands at its path. -/
def prepare (files : FileSystem) (path : String) :
    Except OutputFault OutputDirectory × FileSystem :=
  match check files path with
  | .error fault => (.error fault, files)
  | .ok () =>
    if files.exists? path then (.ok ⟨path⟩, files)
    else match files.createDirectories path with
      | (.ok (), made) => (.ok ⟨path⟩, made)
      | (.error cause, reached) => (.error (.cannotCreate cause), reached)

/-- The parts of a package name between its dots, without empty ones. -/
def packageSegments (package : String) : List String :=
  ((package.toList.splitOn '.').filter fun segment => !segment.isEmpty).map String.ofList

/-- The path of the directory for a package. -/
def packageDirectory (output : OutputDirectory) (package : String) : String :=
  (packageSegments package).foldl Path.join output.root

end OutputDirectory

end ContentClasses
