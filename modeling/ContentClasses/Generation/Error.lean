import ContentClasses.Json.Problem
import ContentClasses.Output.Directory
import ContentClasses.Settings.Fault

/-! Why a generation run fails. -/

namespace ContentClasses

/-- Why a generation run fails. -/
inductive GenerationError where
  | output (path : String) (fault : OutputFault)
  | settings (fault : SettingsFault)
  | schema (path : String) (cause : IoCause)
  | emit (className : String) (cause : IoCause)
  /-- Findings were graded as errors. -/
  | diagnostics (summary : String)
  | io (cause : IoCause)
  | json (error : Json.Error)
  deriving DecidableEq, Repr

/-- The text of an error. -/
def GenerationError.message : GenerationError → String
  | .output path fault => "Invalid output location " ++ path ++ ": " ++ fault.message
  | .settings fault => "Configuration error: " ++ fault.message
  | .schema path cause => "Schema provider error: cannot read " ++ path ++ ": " ++ cause.message
  | .emit className cause => "Failed to write class " ++ className ++ ": " ++ cause.message
  | .diagnostics summary => "Generation stopped by diagnostics: " ++ summary
  | .io cause => "IO error: " ++ cause.message
  | .json error => "JSON error: " ++ error.message

/-- The text of the cause behind an error, if the error has one of its own. -/
def GenerationError.cause? : GenerationError → Option String
  | .settings fault => some fault.message
  | .emit _ cause => some cause.message
  | .io cause => some cause.message
  | .json error => some error.message
  | .output _ _ | .schema _ _ | .diagnostics _ => none

end ContentClasses
