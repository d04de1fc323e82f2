import ContentClasses.Settings.Json

/-! What the loading of settings takes from its surroundings: the home directory of the account and
the readers of formats that are not known here. -/

namespace ContentClasses

/-- The formats of files with settings whose readers come from outside. -/
inductive ForeignFormat where
  | yaml
  | ini
  | ron
  | json5
  deriving DecidableEq, Repr

/-- The formats of files with settings. -/
inductive SettingsFormat where
  | toml
  | json
  | foreign (format : ForeignFormat)
  deriving DecidableEq, Repr

namespace SettingsFormat

/-- All formats. -/
def all : List SettingsFormat :=
  [.toml, .json, .foreign .yaml, .foreign .ini, .foreign .ron, .foreign .json5]

/-- The endings of file names that show a format. -/
def endings : SettingsFormat → List String
  | .toml => ["toml"]
  | .json => ["json"]
  | .foreign .yaml => ["yaml", "yml"]
  | .foreign .ini => ["ini"]
  | .foreign .ron => ["ron"]
  | .foreign .json5 => ["json5"]

end SettingsFormat

/-- What the loading of settings takes from outside. -/
class Host where
  /-- The home directory of the account, if the database of users has one. -/
  accountHome : Option String
  /-- The formats in the order in which their endings are tried, which no documentation fixes. -/
  formats : List SettingsFormat
  /-- Every format is tried once. -/
  formats_perm : formats.Perm SettingsFormat.all
  /-- The settings in a text, with the origin that they get, or none if it is not in the format. -/
  readForeign : ForeignFormat → (origin text : String) → Option (List (String × Setting))

/-- A host without database of users that reads nothing but TOML and JSON. -/
instance : Host where
  accountHome := none
  formats := SettingsFormat.all
  formats_perm := .refl _
  readForeign _ _ _ := none

variable [Host]

/-- The endings of file names, with the formats that they show. -/
def formatEndings : List (String × SettingsFormat) :=
  Host.formats.flatMap fun format => format.endings.map (·, format)

/-- The settings in a text, or none if the text is not in its format. -/
def settingsOf? (format : SettingsFormat) (origin text : String) :
    Option (List (String × Setting)) :=
  match format with
  | .toml => (Toml.readDocument text).map (Setting.ofTomlEntries origin)
  | .json =>
    match Json.readDocument (Json.Scan.valueWithin Json.maxDepth) text with
    | .ok (.object members) => some (Association.lastOfEach (Setting.ofJsonMembers origin members))
    | _ => none
  | .foreign format => Host.readForeign format origin text

/-- The home directory of the user: the one in the environment, or else that of the account. -/
def homeDirectory? (environment : List (String × String)) : Option String :=
  ((environment.lookup "HOME").filter (· ≠ "")).or (Host.accountHome.filter (· ≠ ""))

end ContentClasses
