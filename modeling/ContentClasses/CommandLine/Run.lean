import ContentClasses.CommandLine.Arguments
import ContentClasses.Java.Emitter
import ContentClasses.Model.Json
import ContentClasses.Settings.Load
import ContentClasses.Settings.Written

/-! What the command does: settings first, then the output location, the schema and the classes. -/

namespace ContentClasses.CommandLine

/-- Why the command fails once its arguments are understood. -/
inductive Failure where
  /-- No schema was given anywhere. -/
  | noSchema
  | generation (error : GenerationError)
  /-- The schema cannot be loaded in a run that is to write nothing. -/
  | loading (path : String) (error : GenerationError)
  deriving DecidableEq, Repr

/-- An error and then its cause, although most errors tell their cause themselves. -/
def withCause (error : GenerationError) : String :=
  ": ".intercalate (error.message :: error.cause?.toList)

/-- The text of a failure. -/
def Failure.message : Failure → String
  | .noSchema => "no schema given, pass --schema or set [schema] path"
  | .generation error => withCause error
  | .loading path error => "loading " ++ path ++ ": " ++ withCause error

/-- What the command has printed, and why it failed if it did. -/
structure Report where
  printed : String := ""
  failure : Option Failure := none
  deriving DecidableEq, Repr

/-- The options over the settings. -/
def Options.onto (options : Options) (settings : Settings) : Settings :=
  { settings with
    output := {
      directory := options.output.getD settings.output.directory
      package := options.package.getD settings.output.package }
    schema := { path := options.schema <|> settings.schema.path } }

/-- Lines of text. -/
def lines (texts : List String) : String := String.join (texts.map (· ++ "\n"))

/-- What is printed before anything is generated. -/
def heading (settings : Settings) (schema : String) : String :=
  lines ["📦 Content Codegen", "  Schema:  " ++ schema,
    "  Output:  " ++ settings.output.directory, "  Package: " ++ settings.output.package, ""]

/-- The class specifications, if they are asked for. -/
def specDump (options : Options) (specs : List ClassSpec) : String :=
  if options.dumpSpecs then lines [dumpSpecs specs] else ""

/-- The findings, if there are any. -/
def findingLines (diagnostics : Diagnostics) : String :=
  if diagnostics.items.isEmpty then ""
  else lines (["", "⚠️  " ++ toString diagnostics.items.length ++ " diagnostics:"] ++
    diagnostics.items.map fun item => "  " ++ item.display)

/-- What is printed of classes that were built but not written. -/
def rehearsalText (options : Options) (batch : Batch) : String :=
  lines (batch.specs.map fun spec =>
    "  " ++ spec.name ++ " (" ++ toString spec.fields.length ++ " fields)") ++
  specDump options batch.specs ++ findingLines batch.diagnostics ++
  lines ["", "🔍 Dry run: " ++ toString batch.specs.length ++ " classes, nothing written"]

/-- What is printed of classes that were written. -/
def summaryText (options : Options) (summary : RunSummary) : String :=
  lines (summary.written.map ("  ✅ " ++ ·)) ++
  specDump options summary.specs ++ findingLines summary.diagnostics ++
  lines ["", "✅ Generated " ++ toString summary.written.length ++ " classes"]

/-- Builds the classes and reports on them. -/
def rehearse (options : Options) (settings : Settings) (files : FileSystem) : Report :=
  match OutputDirectory.check files settings.output.directory with
  | .error fault => { failure := some (.generation (.output settings.output.directory fault)) }
  | .ok () =>
    match settings.schema.path with
    | none => { failure := some .noSchema }
    | some schema =>
      match files.fetchTypes schema with
      | .error error =>
        { printed := heading settings schema, failure := some (.loading schema error) }
      | .ok types =>
        { printed := heading settings schema ++
            rehearsalText options (settings.codegen.generate types) }

/-- Builds the classes, writes their sources and reports on them. -/
def generate (options : Options) (settings : Settings) (files : FileSystem) :
    Report × FileSystem :=
  match OutputDirectory.prepare files settings.output.directory with
  | (.error fault, reached) =>
    ({ failure := some (.generation (.output settings.output.directory fault)) }, reached)
  | (.ok output, prepared) =>
    match settings.schema.path with
    | none => ({ failure := some .noSchema }, prepared)
    | some schema =>
      let target : Java.Target :=
        { output, package := settings.output.package, profile := settings.render }
      let fetched := prepared.fetchTypes schema
      match settings.codegen.run fetched target.emitter { files := prepared } with
      | (.error error, space) =>
        ({ printed := heading settings schema, failure := some (.generation error) }, space.files)
      | (.ok summary, space) =>
        ({ printed := heading settings schema ++ summaryText options summary }, space.files)

/-- How a call of the command ends. -/
structure Outcome where
  exitCode : Nat := 0
  stdout : String := ""
  stderr : String := ""
  files : FileSystem
  deriving DecidableEq

variable [Host]

/-- Does what the options ask for. -/
def perform (options : Options) (environment : List (String × String)) (files : FileSystem) :
    Report × FileSystem :=
  match loadSettings files environment options.config with
  | .error fault => ({ failure := some (.generation (.settings fault)) }, files)
  | .ok loaded =>
    let settings := options.onto loaded
    if options.printConfig then ({ printed := settings.written }, files)
    else if options.dryRun then (rehearse options settings files, files)
    else generate options settings files

/-- Calls the command with arguments and environment variables on files. -/
def call (arguments : List String) (environment : List (String × String)) (files : FileSystem) :
    Outcome :=
  match readArguments arguments with
  | .error (.refused error) => { exitCode := 2, stderr := error.report, files }
  | .error .help => { stdout := helpText, files }
  | .error .version => { stdout := versionText, files }
  | .ok options =>
    match perform options environment files with
    | (⟨stdout, none⟩, reached) => { stdout, files := reached }
    | (⟨stdout, some failure⟩, reached) =>
      { exitCode := 1, stdout, stderr := "Error: " ++ failure.message ++ "\n", files := reached }

end ContentClasses.CommandLine
