import ContentClasses.Diagnostics.Reader
import ContentClasses.Files.System
import ContentClasses.Model.Json
import ContentClasses.Settings.Basic
import ContentClasses.Toml.Written

/-! The written form of all settings as a TOML document. -/

namespace ContentClasses

/-- A line that assigns a written value to a key. -/
def assignmentLine (key : String) (written : List Char) : String :=
  key ++ " = " ++ String.ofList written ++ "\n"

/-- A line that assigns a text to a key. -/
def textLine (key value : String) : String := assignmentLine key (Toml.writtenText value.toList)

/-- A line that assigns a level to a key. -/
def levelLine (key : String) (level : Level) : String := textLine key (nameIn levelNames level)

/-- A table under its header. -/
def writtenTable (header : String) (lines : List String) : String :=
  "[" ++ header ++ "]\n" ++ String.join lines

/-- The settings as tables with an empty line between them; only an absent path is left out. -/
def Settings.written (settings : Settings) : String :=
  let levels := settings.codegen.diagnostics
  let render := settings.render
  let types := render.types
  "\n".intercalate [
    writtenTable "output" [
      textLine "directory" settings.output.directory,
      textLine "package" settings.output.package],
    writtenTable "schema" (settings.schema.path.toList.map (textLine "path")),
    writtenTable "codegen.naming" [
      assignmentLine "acronyms" (Toml.writtenTexts settings.codegen.naming.acronyms.words)],
    writtenTable "codegen.diagnostics" [
      levelLine "unsupported_element" levels.unsupportedElement,
      levelLine "field_name_collision" levels.fieldNameCollision,
      levelLine "malformed_identifier" levels.malformedIdentifier,
      levelLine "class_name_collision" levels.classNameCollision],
    writtenTable "render" [
      textLine "keyword_escape" render.keywordEscape,
      textLine "indent" render.indent],
    writtenTable "render.types" [
      textLine "string" types.string,
      textLine "number" types.number,
      textLine "date_time" types.dateTime,
      textLine "list" types.list,
      textLine "option" types.option,
      textLine "asset" types.asset,
      textLine "taxonomy" types.taxonomy,
      textLine "content_item" types.contentItem],
    writtenTable "render.annotations" [
      textLine "element" render.annotations.element,
      textLine "content_type" render.annotations.contentType]]

/-- Writes the settings to a file. -/
def Settings.save (settings : Settings) (files : FileSystem) (path : String) :
    Except IoCause FileSystem :=
  files.writeText path settings.written

end ContentClasses
