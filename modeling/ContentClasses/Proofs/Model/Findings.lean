import ContentClasses.Model.Batch
import ContentClasses.Proofs.Diagnostics.Collector

/-! Building reports a list of findings that depends on names and types only, and makes the classes
that silent building makes. -/

namespace ContentClasses

namespace Naming

/-- What is found about a content type's own codename. -/
def codenameFindings (type : ContentType) : List Finding :=
  if isSnakeCase type.codename then []
  else [⟨.malformedIdentifier, type.codename, none,
    "content type codename is not lower-snake-case"⟩]

/-- What is found about an element for which there is perhaps a field. -/
def elementFindings (naming : Naming) (contentType : String) (element : Element) :
    Option FieldSpec → List Finding
  | none => [⟨.unsupportedElement, contentType, some element.codename,
      "unsupported element type `" ++ element.tag ++ "`, skipped"⟩]
  | some field =>
    (if isSnakeCase element.codename then []
      else [⟨.malformedIdentifier, contentType, some element.codename,
        "element codename is not lower-snake-case"⟩]) ++
    (if field.name = naming.memberName element.codename then []
      else [⟨.fieldNameCollision, contentType, some element.codename,
        "member name `" ++ naming.memberName element.codename ++ "` already taken, renamed to `" ++
          field.name ++ "`"⟩])

/-- What is found about a list of elements, after the fields made for earlier elements. -/
def findingsAfter (naming : Naming) (contentType : String) (earlier : List FieldSpec) :
    List Element → List Finding
  | [] => []
  | element :: rest =>
    naming.elementFindings contentType element (naming.field? earlier element) ++
      naming.findingsAfter contentType (earlier ++ (naming.field? earlier element).toList) rest

/-- What is found about a content type by itself. -/
def findings (naming : Naming) (type : ContentType) : List Finding :=
  codenameFindings type ++ naming.findingsAfter type.codename [] type.elements

/-- What is found about the name of a class that was built for a content type. -/
def renamingFindings (type : ContentType) (built spec : ClassSpec) : List Finding :=
  if spec.name = built.name then []
  else [⟨.classNameCollision, type.codename, none,
    "class name `" ++ built.name ++ "` already taken, renamed to `" ++ spec.name ++ "`"⟩]

/-- What is found about a list of content types, after the classes built for earlier ones. -/
def batchFindingsAfter (naming : Naming) (earlier : List ClassSpec) :
    List ContentType → List Finding
  | [] => []
  | type :: rest =>
    naming.findings type ++
      renamingFindings type (naming.build type) ((naming.build type).renamedAfter earlier) ++
      naming.batchFindingsAfter (earlier ++ [(naming.build type).renamedAfter earlier]) rest

/-- What is found about a batch of content types. -/
def batchFindings (naming : Naming) (types : List ContentType) : List Finding :=
  naming.batchFindingsAfter [] types

end Naming

/-- One element adds its field with its accessors to a draft, and its findings to the collector. -/
theorem Draft.addElement_eq (naming : Naming) (contentType : String) (draft : Draft)
    (element : Element) :
    draft.addElement naming contentType element =
      { fields := draft.fields ++ (naming.field? draft.fields element).toList
        accessors := draft.accessors ++
          (naming.field? draft.fields element).toList.flatMap FieldSpec.accessors
        diagnostics := draft.diagnostics.reportAll
          (naming.elementFindings contentType element (naming.field? draft.fields element)) } := by
  cases made : naming.field? draft.fields element with
  | none => simp [addElement, made, report, Naming.elementFindings]
  | some field =>
    -- Each of the two checks either reports its finding or leaves the draft as it is.
    by_cases snake : isSnakeCase element.codename = true <;>
    by_cases kept : field.name = naming.memberName element.codename <;>
    simp [addElement, made, report, Naming.elementFindings, snake, kept]

/-- A list of elements adds its fields, their accessors and its findings to a draft. -/
theorem Draft.foldl_addElement (naming : Naming) (contentType : String) (elements : List Element)
    (draft : Draft) (paired : draft.accessors = draft.fields.flatMap FieldSpec.accessors) :
    elements.foldl (Draft.addElement naming contentType) draft =
      { fields := naming.fieldsAfter draft.fields elements
        accessors := (naming.fieldsAfter draft.fields elements).flatMap FieldSpec.accessors
        diagnostics := draft.diagnostics.reportAll
          (naming.findingsAfter contentType draft.fields elements) } := by
  -- The accessors of a draft are at all times those of its fields.
  induction elements generalizing draft with
  | nil => simp [Naming.fieldsAfter, Naming.findingsAfter, ← paired]
  | cons element rest ih =>
    rw [List.foldl_cons, ih _ (by simp [addElement_eq, paired])]
    simp [addElement_eq, Naming.fieldsAfter, Naming.findingsAfter]

/-- Building with a collector makes the class of silent building and reports its findings. -/
theorem Naming.buildReporting_eq (naming : Naming) (type : ContentType)
    (diagnostics : Diagnostics) :
    naming.buildReporting type diagnostics =
      (naming.build type, diagnostics.reportAll (naming.findings type)) := by
  -- A draft starts without fields and accessors, after the check of the codename.
  unfold buildReporting findings
  by_cases snake : isSnakeCase type.codename = true
  · simp [snake, Draft.foldl_addElement, build, codenameFindings]
  · simp [snake, Draft.foldl_addElement, build, codenameFindings, Draft.report]

/-- One content type adds its class to a batch, and its findings to the collector. -/
theorem Batch.addType_eq (naming : Naming) (batch : Batch) (type : ContentType) :
    batch.addType naming type =
      { specs := batch.specs ++ [(naming.build type).renamedAfter batch.specs]
        diagnostics := batch.diagnostics.reportAll (naming.findings type ++
          Naming.renamingFindings type (naming.build type)
            ((naming.build type).renamedAfter batch.specs)) } := by
  simp only [addType, Naming.buildReporting_eq, Naming.renamingFindings,
    Diagnostics.reportAll_append]
  split <;> rfl

/-- A list of content types adds its classes and its findings to a batch. -/
theorem Batch.foldl_addType (naming : Naming) (types : List ContentType) (batch : Batch) :
    types.foldl (Batch.addType naming) batch =
      { specs := naming.classesAfter batch.specs types
        diagnostics := batch.diagnostics.reportAll
          (naming.batchFindingsAfter batch.specs types) } := by
  -- Each renamed class is among the earlier ones for the content types after it.
  induction types generalizing batch with
  | nil => simp [Naming.classesAfter, Naming.batchFindingsAfter]
  | cons type rest ih =>
    simp [ih, addType_eq, Naming.classesAfter, Naming.batchFindingsAfter]

/-- A batch holds the classes of silent building. -/
@[simp] theorem CodegenConfig.generate_specs (config : CodegenConfig) (types : List ContentType) :
    (config.generate types).specs = config.naming.generateAll types := by
  simp [generate, Batch.foldl_addType, Naming.generateAll]

/-- A batch has collected the graded findings about its content types. -/
theorem CodegenConfig.generate_items (config : CodegenConfig) (types : List ContentType) :
    (config.generate types).diagnostics.items =
      (config.naming.batchFindings types).filterMap (Finding.graded? config.diagnostics) := by
  simp [generate, Batch.foldl_addType, Naming.batchFindings, Diagnostics.reportAll_eq]

/-- What is found about a content type is among what is found about its batch. -/
theorem Naming.mem_batchFindings {naming : Naming} {types : List ContentType} {type : ContentType}
    {finding : Finding} (member : type ∈ types) (found : finding ∈ naming.findings type) :
    finding ∈ naming.batchFindings types := by
  -- The classes built earlier matter for renaming only.
  unfold batchFindings
  generalize ([] : List ClassSpec) = earlier
  induction types generalizing earlier with
  | nil => simp at member
  | cons first rest ih =>
    simp only [batchFindingsAfter, List.mem_append]
    rcases List.mem_cons.mp member with rfl | member
    · exact .inl (.inl found)
    · exact .inr (ih member _)

end ContentClasses
