/-! Content types: named lists of elements, each with a codename, a type tag and perhaps a display
name. -/

namespace ContentClasses

/-- One typed element of a content type. -/
structure Element where
  codename : String
  /-- The kind of the element as the schema names it. -/
  tag : String
  /-- The name shown to editors. -/
  name : Option String := none
  deriving DecidableEq, Inhabited

/-- A content type with its elements in schema order. -/
structure ContentType where
  codename : String
  /-- The name shown to editors. -/
  name : Option String := none
  elements : List Element := []
  deriving DecidableEq, Inhabited

/-- Puts an element in the place of the first one with its codename, or at the end. -/
def replaceOrAppend (element : Element) : List Element → List Element
  | [] => [element]
  | first :: rest =>
    if first.codename = element.codename then element :: rest
    else first :: replaceOrAppend element rest

namespace ContentType

/-- Adds an element, replacing an element with the same codename in place. -/
def withElement (type : ContentType) (codename tag : String) : ContentType :=
  { type with elements := replaceOrAppend { codename, tag } type.elements }

/-- The element with a codename. -/
def element? (type : ContentType) (codename : String) : Option Element :=
  type.elements.find? (·.codename = codename)

end ContentType

/-- Where a listing stands in the sequence of pages it was cut into. -/
structure Pagination where
  skip : Nat := 0
  limit : Nat := 0
  count : Nat := 0
  nextPage : String := ""
  deriving DecidableEq, Inhabited

/-- A listing of content types as the delivery service answers it. -/
structure Listing where
  types : List ContentType := []
  pagination : Option Pagination := none
  deriving DecidableEq, Inhabited

end ContentClasses
