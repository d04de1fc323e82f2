import ContentClasses.Files.Cause
import ContentClasses.Found

/-! Why settings cannot be loaded. -/

namespace ContentClasses

/-- How values found among settings are worded. -/
def settingWording : FoundWording := ⟨"unit value", Binary64.positionalFraction⟩

/-- Why settings cannot be loaded. -/
inductive SettingsFault where
  /-- A file is not in its format. -/
  | malformed (file : String)
  /-- A value that has no text stands where one is wanted. -/
  | notText (found : Found) (key : Option String) (origin : Option String)
  /-- A value of another type stands where a group or a list is wanted. -/
  | wrongType (found : Found) (expected : String)
  | unknownLevel (given : String)
  /-- Neither a text nor a table with one key stands where a level is wanted. -/
  | notLevel
  | missingFile (path : String)
  /-- A file has a name that shows no known format. -/
  | unknownFormat (path : String)
  | unreadable (cause : IoCause)
  deriving DecidableEq, Repr

/-- The text of the reason. -/
def SettingsFault.message : SettingsFault → String
  | .malformed file => "cannot parse " ++ file
  | .notText found key origin =>
    "invalid type: " ++ found.describe settingWording ++ ", expected a string" ++
      (match key with
      | some key => " for key `" ++ key ++ "`"
      | none => "") ++
      (match origin with
      | some origin => " in " ++ origin
      | none => "")
  | .wrongType found expected =>
    "invalid type: " ++ found.describe settingWording ++ ", expected " ++ expected
  | .unknownLevel given => "enum DiagnosticLevel does not have variant constructor " ++ given
  | .notLevel =>
    "value of enum DiagnosticLevel should be represented by either string or table with " ++
      "exactly one key"
  | .missingFile path => "configuration file \"" ++ path ++ "\" not found"
  | .unknownFormat path =>
    "configuration file \"" ++ path ++ "\" is not of a registered file format"
  | .unreadable cause => cause.message

end ContentClasses
