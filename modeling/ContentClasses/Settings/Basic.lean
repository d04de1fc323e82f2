import ContentClasses.Java.Profile
import ContentClasses.Model.Batch

/-! The settings of the generator. -/

namespace ContentClasses

/-- Where classes are written, and in which package. -/
structure OutputSettings where
  directory : String := "./generated"
  package : String := "com.example.models"
  deriving DecidableEq, Inhabited

/-- Where the listing of content types is. -/
structure SchemaSettings where
  path : Option String := none
  deriving DecidableEq, Inhabited

/-- All settings. -/
structure Settings where
  output : OutputSettings := {}
  schema : SchemaSettings := {}
  codegen : CodegenConfig := {}
  render : Java.Profile := {}
  deriving DecidableEq, Inhabited

end ContentClasses
