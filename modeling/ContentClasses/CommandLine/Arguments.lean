import ContentClasses.CommandLine.Switch
import ContentClasses.Text.Resemblance

/-! The arguments of the command: which options they give, or why they cannot be understood. -/

namespace ContentClasses.CommandLine

/-- Why arguments cannot be understood. -/
inductive ArgumentError where
  /-- Something that is no option, perhaps misspelled, after some options that were. -/
  | unexpected (argument : String) (similar : Option Switch) (given : List Switch)
  | repeated (switch : Switch)
  | missingValue (switch : Switch)
  /-- A value for an option that takes none. -/
  | unwantedValue (switch : Switch) (value : String) (given : List Switch)
  deriving DecidableEq, Repr

namespace ArgumentError

/-- The first line of the report. -/
def message : ArgumentError → String
  | .unexpected argument _ _ => "unexpected argument '" ++ argument ++ "' found"
  | .repeated switch => "the argument '" ++ switch.display ++ "' cannot be used multiple times"
  | .missingValue switch =>
    "a value is required for '" ++ switch.display ++ "' but none was supplied"
  | .unwantedValue switch value _ =>
    "unexpected value '" ++ value ++ "' for '" ++ switch.display ++
      "' found; no more were expected"

/-- The option that may have been meant. -/
def tip? : ArgumentError → Option Switch
  | .unexpected _ similar _ => similar
  | _ => none

/-- The options that the usage line shows, if the report has one. -/
def usage? : ArgumentError → Option (List Switch)
  | .unexpected _ _ given | .unwantedValue _ _ given => some given
  | .repeated _ => some []
  | .missingValue _ => none

/-- The report of an error. -/
def report (error : ArgumentError) : String :=
  "error: " ++ error.message ++ "\n" ++
    (match error.tip? with
    | some switch => "\n  tip: a similar argument exists: '--" ++ switch.name ++ "'\n"
    | none => "") ++
    (match error.usage? with
    | some switches => "\n" ++ usageLine switches
    | none => "") ++
    "\nFor more information, try '--help'.\n"

end ArgumentError

/-- What the reading of arguments ends with before their end. -/
inductive Interruption where
  | refused (error : ArgumentError)
  | help
  | version
  deriving DecidableEq, Repr

/-- What has been read of the arguments. -/
structure Reading where
  /-- The options that were given so far, with their values. -/
  given : List (Switch × String) := []
  /-- An option whose value is the next argument, or the last one if that was read already. -/
  waiting : Option (Switch × Option String) := none

namespace Reading

/-- The options that were given so far. -/
def switches (reading : Reading) : List Switch := reading.given.map (·.1)

/-- The options that were given so far and one more, which is not listed twice. -/
def switchesWith (reading : Reading) (switch : Switch) : List Switch :=
  if reading.switches.contains switch then reading.switches else reading.switches ++ [switch]

/-- Adds an option, with an empty value for one that takes none. -/
def accept (reading : Reading) (switch : Switch) (value : String) : Except Interruption Reading :=
  match switch with
  | .help => .error .help
  | .version => .error .version
  | _ =>
    if reading.switches.contains switch then .error (.refused (.repeated switch))
    else if value.isEmpty && !switch.allowsEmpty then .error (.refused (.missingValue switch))
    else .ok { reading with given := reading.given ++ [(switch, value)] }

/-- Adds the option that waits for its value to be looked at. -/
def settle (reading : Reading) : Except Interruption Reading :=
  match reading.waiting with
  | none => .ok reading
  | some (switch, none) => .error (.refused (.missingValue switch))
  | some (switch, some value) => { reading with waiting := none }.accept switch value

/-- Reads an option with the value that is attached to it, if there is one. -/
def option (reading : Reading) (switch : Switch) (attached : Option String) :
    Except Interruption Reading := do
  match attached, switch.value? with
  | some value, some _ => (← reading.settle).accept switch value
  | some value, none => throw (.refused (.unwantedValue switch value (reading.switchesWith switch)))
  | none, some _ => return { (← reading.settle) with waiting := some (switch, none) }
  | none, none => (← reading.settle).accept switch ""

/-- Reads an argument that begins with two dashes, after these. -/
def longOption (reading : Reading) (text : List Char) : Except Interruption Reading :=
  let name := String.ofList (text.takeWhile (· ≠ '='))
  match Switch.ofName? name with
  | some switch =>
    let attached := match text.dropWhile (· ≠ '=') with
      | [] => none
      | _ :: value => some (String.ofList value)
    reading.option switch attached
  | none =>
    let similar := mostSimilar? Switch.name name Switch.all
    let shown := match similar with
      | some switch => reading.switchesWith switch
      | none => reading.switches
    .error (.refused (.unexpected ("--" ++ name) similar shown))

/-- Reads the letters of an argument that begins with one dash, after it. -/
def letters (reading : Reading) : List Char → Except Interruption Reading
  | [] => .ok reading
  | letter :: rest =>
    match Switch.ofLetter? letter with
    | none => .error (.refused (.unexpected ("-" ++ String.singleton letter) none []))
    | some switch =>
      if switch.value?.isNone then do (← reading.option switch none).letters rest
      else
        -- What follows the letter is its value, with or without an equality sign.
        let attached := match rest with
          | [] => none
          | '=' :: value => some (String.ofList value)
          | value => some (String.ofList value)
        reading.option switch attached

/-- Reads an argument that is no option. -/
def word (reading : Reading) (argument : String) : Except Interruption Reading :=
  match reading.waiting with
  | some (switch, none) => .ok { reading with waiting := some (switch, some argument) }
  | _ => .error (.refused (.unexpected argument none []))

/-- Reads arguments in order; after a lone pair of dashes nothing may follow. -/
def arguments (reading : Reading) : List String → Except Interruption Reading
  | [] => reading.settle
  | argument :: rest =>
    match argument.toList, rest with
    | ['-', '-'], [] => reading.settle
    | ['-', '-'], next :: _ => .error (.refused (.unexpected next none []))
    | '-' :: '-' :: text, _ => do (← reading.longOption text).arguments rest
    | '-' :: first :: more, _ => do (← reading.letters (first :: more)).arguments rest
    | _, _ => do (← reading.word argument).arguments rest

end Reading

/-- What the arguments ask for. -/
structure Options where
  schema : Option String := none
  output : Option String := none
  package : Option String := none
  config : Option String := none
  dryRun : Bool := false
  dumpSpecs : Bool := false
  printConfig : Bool := false
  deriving DecidableEq, Repr, Inhabited

/-- The options that were given. -/
def Reading.options (reading : Reading) : Options where
  schema := reading.given.lookup .schema
  output := reading.given.lookup .output
  package := reading.given.lookup .package
  config := reading.given.lookup .config
  dryRun := reading.switches.contains .dryRun
  dumpSpecs := reading.switches.contains .dumpSpecs
  printConfig := reading.switches.contains .printConfig

/-- Reads all arguments. -/
def readArguments (arguments : List String) : Except Interruption Options :=
  (({} : Reading).arguments arguments).map Reading.options

end ContentClasses.CommandLine
