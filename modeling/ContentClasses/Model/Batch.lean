import ContentClasses.Model.Build

/-! Building a batch of content types, in which no two classes share a name. -/

namespace ContentClasses

/-- What a generation run is told about names and diagnostics. -/
structure CodegenConfig where
  naming : Naming := {}
  diagnostics : Levels := {}
  deriving DecidableEq, Inhabited

/-- A class under the first free variant of its name, after the classes built earlier. -/
def ClassSpec.renamedAfter (earlier : List ClassSpec) (spec : ClassSpec) : ClassSpec :=
  { spec with name := firstFree spec.name (earlier.map (·.name)) }

/-- The classes built earlier followed by those for a list of content types. -/
def Naming.classesAfter (naming : Naming) (earlier : List ClassSpec) :
    List ContentType → List ClassSpec
  | [] => earlier
  | type :: rest =>
    naming.classesAfter (earlier ++ [(naming.build type).renamedAfter earlier]) rest

/-- One class for each content type, in order. -/
def Naming.generateAll (naming : Naming) (types : List ContentType) : List ClassSpec :=
  naming.classesAfter [] types

/-- Classes built together, with the diagnostics collected on the way. -/
structure Batch where
  specs : List ClassSpec := []
  diagnostics : Diagnostics := {}

namespace Batch

/-- Adds the class for one more content type. -/
def addType (naming : Naming) (batch : Batch) (type : ContentType) : Batch :=
  let (built, diagnostics) := naming.buildReporting type batch.diagnostics
  let spec := built.renamedAfter batch.specs
  { specs := batch.specs ++ [spec]
    diagnostics :=
      if spec.name = built.name then diagnostics
      else diagnostics.report {
        kind := .classNameCollision
        contentType := type.codename
        element := none
        message :=
          "class name `" ++ built.name ++ "` already taken, renamed to `" ++ spec.name ++ "`" } }

end Batch

/-- The classes for a list of content types, and everything found on the way that is not ignored. -/
def CodegenConfig.generate (config : CodegenConfig) (types : List ContentType) : Batch :=
  types.foldl (Batch.addType config.naming) { diagnostics := { levels := config.diagnostics } }

end ContentClasses
