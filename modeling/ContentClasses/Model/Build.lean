import ContentClasses.Diagnostics.Collector
import ContentClasses.Model.ClassSpec
import ContentClasses.Naming.FreeName
import ContentClasses.Schema.ContentType

/-! Building the class for one content type, silently or while collecting diagnostics. -/

namespace ContentClasses

/-- The comment on every class, without a date so that generating again changes nothing. -/
def generatedNotice : List String := [
  "This code was generated by content-codegen.",
  "",
  "Changes to this file may cause incorrect behavior and will be lost if the code is regenerated.",
  "For further modifications of the class, create a separate file and extend this class."]

/-- The getter and the setter of a field. -/
def FieldSpec.accessors (field : FieldSpec) : List AccessorSpec :=
  [.getter, .setter].map fun kind => ⟨kind, accessorName kind field.name, field.name⟩

namespace Naming

/-- The field for an element after earlier fields, or none if the element's tag has no type. -/
def field? (naming : Naming) (earlier : List FieldSpec) (element : Element) : Option FieldSpec :=
  (TypeDescriptor.ofTag? element.tag).map fun type =>
    { name := firstFree (naming.memberName element.codename) (earlier.map (·.name))
      type
      source := element.codename }

/-- The fields for a list of elements, after the fields made for earlier elements. -/
def fieldsAfter (naming : Naming) (earlier : List FieldSpec) : List Element → List FieldSpec
  | [] => earlier
  | element :: rest => naming.fieldsAfter (earlier ++ (naming.field? earlier element).toList) rest

/-- The class with given fields for a content type. -/
def classWith (naming : Naming) (type : ContentType) (fields : List FieldSpec)
    (accessors : List AccessorSpec) : ClassSpec where
  name := naming.typeName type.codename
  fields := fields
  accessors := accessors
  provenance := type.codename
  documentation := generatedNotice

/-- The class for a content type: a field with its two accessors for each element whose tag has a
type. -/
def build (naming : Naming) (type : ContentType) : ClassSpec :=
  let fields := naming.fieldsAfter [] type.elements
  naming.classWith type fields (fields.flatMap FieldSpec.accessors)

end Naming

/-- A class under construction, with the collector that its findings go to. -/
structure Draft where
  fields : List FieldSpec := []
  accessors : List AccessorSpec := []
  diagnostics : Diagnostics

namespace Draft

/-- Reports a finding about the type under construction. -/
def report (draft : Draft) (kind : FindingKind) (contentType : String) (element : Option String)
    (message : String) : Draft :=
  { draft with diagnostics := draft.diagnostics.report { kind, contentType, element, message } }

/-- Adds what one element contributes and reports what is found about it. -/
def addElement (naming : Naming) (contentType : String) (draft : Draft) (element : Element) :
    Draft :=
  match naming.field? draft.fields element with
  | none =>
    -- A skipped element is reported as unsupported only, whatever its codename looks like.
    draft.report .unsupportedElement contentType (some element.codename)
      ("unsupported element type `" ++ element.tag ++ "`, skipped")
  | some field =>
    let checked :=
      if isSnakeCase element.codename then draft
      else draft.report .malformedIdentifier contentType (some element.codename)
        "element codename is not lower-snake-case"
    let base := naming.memberName element.codename
    let named :=
      if field.name = base then checked
      else checked.report .fieldNameCollision contentType (some element.codename)
        ("member name `" ++ base ++ "` already taken, renamed to `" ++ field.name ++ "`")
    { named with
      fields := named.fields ++ [field]
      accessors := named.accessors ++ field.accessors }

end Draft

/-- The class for a content type, with its findings added to a collector. -/
def Naming.buildReporting (naming : Naming) (type : ContentType) (diagnostics : Diagnostics) :
    ClassSpec × Diagnostics :=
  let start : Draft := { diagnostics }
  let checked :=
    if isSnakeCase type.codename then start
    else start.report .malformedIdentifier type.codename none
      "content type codename is not lower-snake-case"
  let draft := type.elements.foldl (Draft.addElement naming type.codename) checked
  (naming.classWith type draft.fields draft.accessors, draft.diagnostics)

end ContentClasses
