/-! Abstract types of generated fields, and the closed table from element tags to them. -/

namespace ContentClasses

/-- Types of plain values. -/
inductive ScalarType where
  | string
  | double
  | dateTime
  deriving DecidableEq, Repr

/-- Types that the delivery runtime provides. -/
inductive DomainType where
  | option
  | asset
  | taxonomy
  | contentItem
  deriving DecidableEq, Repr

/-- The type of a generated field. -/
inductive TypeDescriptor where
  | scalar (type : ScalarType)
  | listOf (item : DomainType)
  /-- A link whose target the schema does not name. -/
  | reference (target : DomainType)
  deriving DecidableEq, Repr

/-- The text shown for a scalar type. -/
def ScalarType.display : ScalarType → String
  | .string => "string"
  | .double => "double"
  | .dateTime => "date-time"

/-- The text shown for a runtime type. -/
def DomainType.display : DomainType → String
  | .option => "Option"
  | .asset => "Asset"
  | .taxonomy => "Taxonomy"
  | .contentItem => "ContentItem"

namespace TypeDescriptor

/-- The text shown for the type of a field. -/
def display : TypeDescriptor → String
  | .scalar type => type.display
  | .listOf item => "list<" ++ item.display ++ ">"
  | .reference target => "ref<" ++ target.display ++ ">"

/-- Every tag that has a type, with its type. -/
def table : List (String × TypeDescriptor) := [
  ("text", .scalar .string),
  ("rich_text", .scalar .string),
  ("url_slug", .scalar .string),
  ("number", .scalar .double),
  ("date_time", .scalar .dateTime),
  ("multiple_choice", .listOf .option),
  ("asset", .listOf .asset),
  ("taxonomy", .listOf .taxonomy),
  ("modular_content", .reference .contentItem)]

/-- The type for an element tag, or none for a tag outside the table. -/
def ofTag? (tag : String) : Option TypeDescriptor := table.lookup tag

end TypeDescriptor

end ContentClasses
