import ContentClasses.Naming.Codename
import ContentClasses.Text.Capital
import ContentClasses.Text.WordSet

/-! The identifiers of generated code that a codename is turned into. -/

namespace ContentClasses

/-- How codenames become identifiers. -/
structure Naming where
  /-- Words written fully in capitals, given in capitals. -/
  acronyms : WordSet := .empty
  deriving DecidableEq, Inhabited

/-- The two kinds of methods that give access to a field. -/
inductive AccessorKind where
  | getter
  | setter
  deriving DecidableEq, Repr

/-- The word an accessor's name begins with. -/
def AccessorKind.opening : AccessorKind → String
  | .getter => "get"
  | .setter => "set"

/-- The name of the accessor of a member, read off the member's name alone. -/
def accessorName (kind : AccessorKind) (member : String) : String :=
  kind.opening ++ String.ofList (capitalized member.toList)

namespace Naming

/-- A word in the case it has inside an identifier: an acronym in capitals, any other with one
capital. -/
def casedWord (naming : Naming) (word : List Char) : List Char :=
  let upper := word.map Char.toUpper
  if naming.acronyms.contains (String.ofList upper) then upper
  else match word with
    | [] => []
    | first :: rest => first.toUpper :: rest.map Char.toLower

/-- The name of the class for a content type, with every word cased. -/
def typeName (naming : Naming) (codename : String) : String :=
  String.ofList ((codenameWords codename.toList).flatMap naming.casedWord)

/-- The name of the member for an element, whose first word is lower case even if it is an acronym.
-/
def memberName (naming : Naming) (codename : String) : String :=
  String.ofList <| match codenameWords codename.toList with
    | [] => []
    | first :: rest => first.map Char.toLower ++ rest.flatMap naming.casedWord

end Naming

end ContentClasses
