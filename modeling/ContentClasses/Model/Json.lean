import ContentClasses.Json.Printer
import ContentClasses.Model.ClassSpec

/-! Class specifications as JSON: the names of their parts, readers and written form. -/

namespace ContentClasses

open Json

/-- The names of the scalar types. -/
def scalarNames : List (String × ScalarType) := [
  ("string", .string), ("double", .double), ("date_time", .dateTime)]

/-- The names of the types of the delivery runtime. -/
def domainNames : List (String × DomainType) := [
  ("option", .option), ("asset", .asset), ("taxonomy", .taxonomy), ("content_item", .contentItem)]

/-- The names of the accessor kinds. -/
def accessorNames : List (String × AccessorKind) := [("getter", .getter), ("setter", .setter)]

/-- The first name that a table gives to a value. -/
def nameIn {α : Type} [DecidableEq α] (table : List (String × α)) (value : α) : String :=
  match table.find? (·.2 = value) with
  | some (name, _) => name
  | none => ""

/-- A kind of field type, which decides what is written beside it. -/
inductive DescriptorKind where
  | scalar
  | listOf
  | reference
  deriving DecidableEq, Repr

/-- The names of the kinds of field types. -/
def descriptorKindNames : List (String × DescriptorKind) := [
  ("scalar", .scalar), ("list_of", .listOf), ("reference", .reference)]

namespace DescriptorKind

/-- Reads the type that stands beside a kind. -/
def read : DescriptorKind → Scan TypeDescriptor
  | .scalar => do return .scalar (← Scan.choice scalarNames)
  | .listOf => do return .listOf (← Scan.choice domainNames)
  | .reference => do return .reference (← Scan.choice domainNames)

/-- One of several names taken from a value that was read before its kind was known. -/
def chosen {α : Type} (choices : List (String × α)) : Value → Scan α
  | .string name => Scan.known choices name
  | .object [(name, content)] => do
    let value ← Scan.known choices name
    match content with
    | .null | .object [] => pure value
    | other => Scan.fail (.invalidType other.found "unit")
  | .object _ => Scan.fail (.invalidValue .table "map with a single key")
  | other => Scan.fail (.invalidType other.found "string or map")

/-- The type that a value read before its kind stands for. -/
def ofValue (value : Value) : DescriptorKind → Scan TypeDescriptor
  | .scalar => do return .scalar (← chosen scalarNames value)
  | .listOf => do return .listOf (← chosen domainNames value)
  | .reference => do return .reference (← chosen domainNames value)

end DescriptorKind

/-- What has been read of a field type. -/
inductive DescriptorState where
  | nothing
  | kind (kind : DescriptorKind)
  | content (content : Value)
  | complete (type : TypeDescriptor)

/-- Reads one member of a field type inside so many open containers. -/
def descriptorMember (depth : Nat) (key : String) (state : DescriptorState) :
    Scan DescriptorState := do
  match key, state with
  | "kind", .nothing => do
    Scan.colon
    return .kind (← Scan.choice descriptorKindNames)
  | "kind", .content content => do
    Scan.colon
    let kind ← Scan.choice descriptorKindNames
    return .complete (← kind.ofValue content)
  | "kind", _ => Scan.fail (.duplicateField "kind")
  | "type", .nothing => do
    Scan.colon
    return .content (← Scan.valueWithin (maxDepth - depth))
  | "type", .kind kind => do
    Scan.colon
    return .complete (← kind.read)
  | "type", _ => Scan.fail (.duplicateField "type")
  | _, _ => do
    Scan.skipMember
    return state

/-- The field type, if both of its parts were read. -/
def descriptorEnd : DescriptorState → Scan TypeDescriptor
  | .complete type => pure type
  | .kind _ => Scan.fail (.missingField "type")
  | _ => Scan.fail (.missingField "kind")

/-- Reads the two parts of a field type that is written as a list. -/
def descriptorItems (expected : String) : Scan TypeDescriptor := do
  if ← Scan.nextItem true then do
    let kind ← Scan.choice descriptorKindNames
    if ← Scan.nextItem false then kind.read else Scan.fail (.invalidLength 1 expected)
  else Scan.fail (.invalidLength 0 expected)

/-- Reads a field type inside so many open containers, with its kind and type in any order. -/
def readTypeDescriptor (depth : Nat) : Scan TypeDescriptor := do
  let expected := "adjacently tagged enum TypeDescriptor"
  match ← Scan.valueStart with
  | '[' => Scan.enclosed Scan.finishList do
    Scan.advance
    descriptorItems expected
  | _ => Scan.object expected (descriptorMember (depth + 1)) .nothing descriptorEnd

/-- Reads a field inside so many open containers. -/
def readFieldSpec (depth : Nat) : Scan FieldSpec :=
  Scan.record "FieldSpec" [
      .of "name" .required Scan.text fun name field => { field with name },
      .of "type" .required (readTypeDescriptor (depth + 1)) fun type field => { field with type },
      .of "source_codename" .required Scan.text fun source field => { field with source }]
    { name := "", type := .scalar .string, source := "" }

/-- Reads an accessor. -/
def readAccessorSpec : Scan AccessorSpec :=
  Scan.record "AccessorSpec" [
      .of "kind" .required (Scan.choice accessorNames) fun kind accessor => { accessor with kind },
      .of "name" .required Scan.text fun name accessor => { accessor with name },
      .of "field" .required Scan.text fun field accessor => { accessor with field }]
    { kind := .getter, name := "", field := "" }

/-- Reads a class specification inside so many open containers. -/
def readClassSpec (depth : Nat) : Scan ClassSpec :=
  Scan.record "ClassSpec" [
      .of "name" .required Scan.text fun name spec => { spec with name },
      .of "fields" .required (Scan.list (readFieldSpec (depth + 2))) fun fields spec =>
        { spec with fields },
      .of "accessors" .required (Scan.list readAccessorSpec) fun accessors spec =>
        { spec with accessors },
      .of "provenance" .required Scan.text fun provenance spec => { spec with provenance },
      .of "documentation" .required (Scan.list Scan.text) fun documentation spec =>
        { spec with documentation }]
    { name := "", fields := [], accessors := [], provenance := "", documentation := [] }

/-- The JSON form of a field type. -/
def TypeDescriptor.toJson (type : TypeDescriptor) : Value :=
  let (kind, name) := match type with
    | .scalar type => (DescriptorKind.scalar, nameIn scalarNames type)
    | .listOf item => (.listOf, nameIn domainNames item)
    | .reference target => (.reference, nameIn domainNames target)
  .object [("kind", .string (nameIn descriptorKindNames kind)), ("type", .string name)]

/-- The JSON form of a field. -/
def FieldSpec.toJson (field : FieldSpec) : Value :=
  .object [("name", .string field.name), ("type", field.type.toJson),
    ("source_codename", .string field.source)]

/-- The JSON form of an accessor. -/
def AccessorSpec.toJson (accessor : AccessorSpec) : Value :=
  .object [("kind", .string (nameIn accessorNames accessor.kind)), ("name", .string accessor.name),
    ("field", .string accessor.field)]

/-- The JSON form of a class specification. -/
def ClassSpec.toJson (spec : ClassSpec) : Value :=
  .object [("name", .string spec.name), ("fields", .list (spec.fields.map FieldSpec.toJson)),
    ("accessors", .list (spec.accessors.map AccessorSpec.toJson)),
    ("provenance", .string spec.provenance),
    ("documentation", .list (spec.documentation.map .string))]

/-- The text that shows a list of class specifications as JSON. -/
def dumpSpecs (specs : List ClassSpec) : String :=
  (Value.list (specs.map ClassSpec.toJson)).pretty

end ContentClasses
