/-! The options of the command, and the help text that lists them. -/

namespace ContentClasses.CommandLine

/-- The name of the command. -/
def commandName : String := "content-codegen"

/-- The line that tells the version. -/
def versionText : String := commandName ++ " 0.1.0\n"

/-- The options of the command. -/
inductive Switch where
  | schema
  | output
  | package
  | config
  | dryRun
  | dumpSpecs
  | printConfig
  | help
  | version
  deriving DecidableEq, Repr

namespace Switch

/-- All options in the order of the help text. -/
def all : List Switch :=
  [.schema, .output, .package, .config, .dryRun, .dumpSpecs, .printConfig, .help, .version]

/-- The long name. -/
def name : Switch → String
  | .schema => "schema"
  | .output => "output"
  | .package => "package"
  | .config => "config"
  | .dryRun => "dry-run"
  | .dumpSpecs => "dump-specs"
  | .printConfig => "print-config"
  | .help => "help"
  | .version => "version"

/-- The short name, if there is one. -/
def letter? : Switch → Option Char
  | .schema => some 's'
  | .output => some 'o'
  | .package => some 'p'
  | .config => some 'c'
  | .help => some 'h'
  | .version => some 'V'
  | .dryRun | .dumpSpecs | .printConfig => none

/-- What the value is called, for options that take one. -/
def value? : Switch → Option String
  | .schema => some "SCHEMA"
  | .output => some "OUTPUT"
  | .package => some "PACKAGE"
  | .config => some "CONFIG"
  | .dryRun | .dumpSpecs | .printConfig | .help | .version => none

/-- Whether the value may be empty, as paths may not. -/
def allowsEmpty : Switch → Bool
  | .schema | .output => false
  | _ => true

/-- What the option is for. -/
def summary : Switch → String
  | .schema => "Saved type listing (JSON)"
  | .output => "Source root for generated files"
  | .package => "Package for generated classes"
  | .config => "Additional config file"
  | .dryRun => "Build and report, but write nothing"
  | .dumpSpecs => "Print the generated class specs as JSON"
  | .printConfig => "Print the effective configuration and exit"
  | .help => "Print help"
  | .version => "Print version"

/-- The option with a long name. -/
def ofName? (name : String) : Option Switch := all.find? (·.name = name)

/-- The option with a short name. -/
def ofLetter? (letter : Char) : Option Switch := all.find? (·.letter? = some letter)

/-- The option as it is shown, with its long name and its value. -/
def display (switch : Switch) : String :=
  "--" ++ switch.name ++ match switch.value? with
    | some value => " <" ++ value ++ ">"
    | none => ""

/-- The left column of the help text. -/
def column (switch : Switch) : String :=
  (match switch.letter? with
    | some letter => "  -" ++ String.singleton letter ++ ", "
    | none => "      ") ++ switch.display

end Switch

/-- The line that shows how the command is used, with the given options or in general. -/
def usageLine (switches : List Switch) : String :=
  let shown := if switches.isEmpty then ["[OPTIONS]"] else switches.map Switch.display
  "Usage: " ++ " ".intercalate (commandName :: shown) ++ "\n"

/-- The help text, in which the summaries of all options start in one column. -/
def helpText : String :=
  let width := (Switch.all.map fun switch => switch.column.length).foldl max 0
  let lines := Switch.all.map fun switch =>
    let gap := String.ofList (List.replicate (width + 2 - switch.column.length) ' ')
    switch.column ++ gap ++ switch.summary ++ "\n"
  "Generate model classes from content type schemas\n\n" ++ usageLine [] ++ "\nOptions:\n" ++
    String.join lines

end ContentClasses.CommandLine
