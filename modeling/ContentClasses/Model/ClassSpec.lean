import ContentClasses.Naming.Identifier
import ContentClasses.Schema.TypeDescriptor

/-! Class specifications: what a class holds, before any target language is chosen. -/

namespace ContentClasses

/-- One field of a class. -/
structure FieldSpec where
  name : String
  type : TypeDescriptor
  /-- The codename of the element that the field carries. -/
  source : String
  deriving DecidableEq

/-- A method that reads or writes one field. -/
structure AccessorSpec where
  kind : AccessorKind
  name : String
  /-- The name of the field it gives access to. -/
  field : String
  deriving DecidableEq

/-- A class to be generated. -/
structure ClassSpec where
  name : String
  fields : List FieldSpec
  accessors : List AccessorSpec
  /-- The codename of the content type that the class stands for. -/
  provenance : String
  /-- The lines of the class comment. -/
  documentation : List String
  deriving DecidableEq

/-- Cuts a list into adjacent pairs, leaving out a last item without partner. -/
def adjacentPairs {α : Type} : List α → List (α × α)
  | first :: second :: rest => (first, second) :: adjacentPairs rest
  | _ => []

namespace ClassSpec

/-- The first field with a name. -/
def field? (spec : ClassSpec) (name : String) : Option FieldSpec :=
  spec.fields.find? (·.name = name)

/-- The first accessor of a kind for a field. -/
def accessor? (spec : ClassSpec) (kind : AccessorKind) (field : String) : Option AccessorSpec :=
  spec.accessors.find? fun accessor => accessor.kind = kind && accessor.field = field

/-- The fields beside the complete pairs of accessors, by position. -/
def members (spec : ClassSpec) : List (FieldSpec × AccessorSpec × AccessorSpec) :=
  spec.fields.zip (adjacentPairs spec.accessors)

end ClassSpec

end ContentClasses
