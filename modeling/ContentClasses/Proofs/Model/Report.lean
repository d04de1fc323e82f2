import ContentClasses.Proofs.Model.ClassNames
import ContentClasses.Proofs.Model.Fields

/-! What a collector holds after building is read off the content types and their finished classes,
and these classes are the ones that are built without it. -/

namespace ContentClasses

/-- The elements of a content type, each beside its field among those of the finished class, or
beside none if its tag has no type. -/
def besideFields : List Element → List FieldSpec → List (Element × Option FieldSpec)
  | [], _ => []
  | element :: rest, fields =>
    match TypeDescriptor.ofTag? element.tag with
    | none => (element, none) :: besideFields rest fields
    | some _ => (element, fields.head?) :: besideFields rest fields.tail

/-- The findings about a content type whose class is finished: about its codename, about each of its
elements in order, and about the name of its class. -/
def Naming.report (naming : Naming) (type : ContentType) (spec : ClassSpec) : List Finding :=
  Naming.codenameFindings type ++
  (besideFields type.elements spec.fields).flatMap (fun (element, field) =>
    naming.elementFindings type.codename element field) ++
  Naming.renamingFindings type (naming.build type) spec

/-- The findings that are not ignored, as warnings or errors by the level of their kind. -/
def Levels.grade (levels : Levels) (findings : List Finding) : List Diagnostic :=
  (findings.filter fun finding => levels.of finding.kind ≠ .ignore).map fun finding =>
    { finding with severity := if levels.of finding.kind = .error then .error else .warning }

/-- Grading findings one by one drops those that are ignored. -/
theorem Levels.grade_eq (levels : Levels) (findings : List Finding) :
    levels.grade findings = findings.filterMap (Finding.graded? levels) := by
  -- A level is one of three, and each of them decides the fate of a finding alone.
  induction findings with
  | nil => rfl
  | cons finding rest ih =>
    rw [List.filterMap_cons, ← ih]
    cases level : levels.of finding.kind <;>
      simp [grade, Finding.graded?, Level.severity?, level]

namespace Naming

variable (naming : Naming)

/-- The first element of a list decides whether there is a field before those of the others. -/
theorem newFields_cons (earlier : List FieldSpec) (element : Element) (rest : List Element) :
    naming.newFields earlier (element :: rest) =
      (naming.field? earlier element).toList ++
        naming.newFields (earlier ++ (naming.field? earlier element).toList) rest := by
  -- Both sides continue the earlier fields to the fields of the whole list.
  have whole := naming.fieldsAfter_eq earlier (element :: rest)
  rw [fieldsAfter, fieldsAfter_eq, List.append_assoc] at whole
  exact (List.append_cancel_left whole).symm

/-- The first content type of a list has its class before those of the others. -/
theorem newClasses_cons (earlier : List ClassSpec) (type : ContentType)
    (rest : List ContentType) :
    naming.newClasses earlier (type :: rest) =
      (naming.build type).renamedAfter earlier ::
        naming.newClasses (earlier ++ [(naming.build type).renamedAfter earlier]) rest := by
  have whole := naming.classesAfter_eq earlier (type :: rest)
  rw [classesAfter, classesAfter_eq, List.append_assoc] at whole
  exact (List.append_cancel_left whole).symm

/-- A class that is built has the fields made for the elements of its content type. -/
theorem build_fields (type : ContentType) :
    (naming.build type).fields = naming.newFields [] type.elements := by
  simp [build, classWith, fieldsAfter_eq]

/-- Each new field stands beside its element. -/
theorem besideFields_newFields (earlier : List FieldSpec) (elements : List Element) :
    (besideFields elements (naming.newFields earlier elements)).filterMap (·.2) =
      naming.newFields earlier elements := by
  -- An element with a type takes the first field that is left, and any other takes none.
  induction elements generalizing earlier with
  | nil => simp [besideFields, newFields, typedElements]
  | cons element rest ih =>
    rw [newFields_cons]
    cases typed : TypeDescriptor.ofTag? element.tag with
    | none => simpa [besideFields, field?, typed] using ih earlier
    | some type => simpa [besideFields, field?, typed] using ih _

/-- What the loop over the elements finds is what is found about each element beside its field. -/
theorem findingsAfter_eq (contentType : String) (earlier : List FieldSpec)
    (elements : List Element) :
    naming.findingsAfter contentType earlier elements =
      (besideFields elements (naming.newFields earlier elements)).flatMap fun (element, field) =>
        naming.elementFindings contentType element field := by
  -- The field that the loop makes for an element is the first one that is left for the others.
  induction elements generalizing earlier with
  | nil => rfl
  | cons element rest ih =>
    rw [findingsAfter, ih, newFields_cons]
    cases typed : TypeDescriptor.ofTag? element.tag with
    | none => simp [besideFields, field?, typed]
    | some type => simp [besideFields, field?, typed]

/-- What is found about a content type alone and about its renaming is read off the renamed class.
-/
theorem report_renamed (type : ContentType) (name : String) :
    naming.report type { naming.build type with name } =
      naming.findings type ++
        renamingFindings type (naming.build type) { naming.build type with name } := by
  simp [report, findings, build_fields, findingsAfter_eq]

/-- A class under its own name shows what is found about its content type alone. -/
theorem report_build (type : ContentType) :
    naming.report type (naming.build type) = naming.findings type := by
  simp [report, findings, build_fields, findingsAfter_eq, renamingFindings]

/-- What the loop over a batch finds is read off each content type and its class. -/
theorem batchFindingsAfter_eq (earlier : List ClassSpec) (types : List ContentType) :
    naming.batchFindingsAfter earlier types =
      (types.zip (naming.newClasses earlier types)).flatMap fun (type, spec) =>
        naming.report type spec := by
  -- The names taken so far are handed on, and decide whether a class is renamed.
  induction types generalizing earlier with
  | nil => rfl
  | cons type rest ih =>
    rw [batchFindingsAfter, ih, newClasses_cons]
    simp [ClassSpec.renamedAfter, report_renamed]

end Naming

/-- Diagnostics are no input of building: a batch has the same classes with and without a collector
and under all levels, and so has a content type that is built with whatever collector. -/
theorem classes_independent_of_diagnostics {silent collecting : CodegenConfig}
    (same : silent.naming = collecting.naming) (types : List ContentType) :
    silent.naming.generateAll types = (collecting.generate types).specs ∧
      ∀ (naming : Naming) (type : ContentType) (collector : Diagnostics),
        (naming.buildReporting type collector).1 = naming.build type := by
  refine ⟨?_, fun naming type collector => ?_⟩
  · rw [CodegenConfig.generate_specs, same]
  · rw [Naming.buildReporting_eq]

/-- Two content types that share a class name give the same two classes whether the collision is
ignored or an error. -/
theorem classes_independent_of_collision_level :
    let silent : CodegenConfig := ⟨{}, { classNameCollision := .ignore }⟩
    let collecting : CodegenConfig := ⟨{}, { unsupportedElement := .error }⟩
    let types : List ContentType :=
      [⟨"hero_3", none, [⟨"title", "text", none⟩, ⟨"map", "zzz", none⟩]⟩, ⟨"hero3", none, []⟩]
    silent.naming = collecting.naming ∧ (collecting.generate types).diagnostics.hasErrors = true ∧
      silent.naming.generateAll types = (collecting.generate types).specs :=
  ⟨rfl, by decide, (classes_independent_of_diagnostics rfl _).1⟩

/-- A batch has collected exactly what its content types and their classes show, in order and graded
by the levels, and building with a shared collector appends to it what one class shows. -/
theorem generate_collects (config : CodegenConfig) (types : List ContentType) :
    (config.naming.generateAll types).length = types.length ∧
    (config.generate types).diagnostics.items =
      config.diagnostics.grade
        ((types.zip (config.naming.generateAll types)).flatMap fun (type, spec) =>
          config.naming.report type spec) ∧
    ∀ (type : ContentType) (collector : Diagnostics),
      (besideFields type.elements (config.naming.build type).fields).filterMap (·.2) =
        (config.naming.build type).fields ∧
      (config.naming.buildReporting type collector).2 =
        { collector with
          items := collector.items ++
            collector.levels.grade (config.naming.report type (config.naming.build type)) } := by
  refine ⟨config.naming.length_generateAll types, ?_, fun type collector => ⟨?_, ?_⟩⟩
  · -- The batch starts without classes, so its new classes are all of them.
    rw [CodegenConfig.generate_items, Levels.grade_eq, Naming.batchFindings,
      Naming.batchFindingsAfter_eq, Naming.generateAll_eq]
  · rw [Naming.build_fields]
    exact config.naming.besideFields_newFields [] type.elements
  · rw [Naming.buildReporting_eq, Diagnostics.reportAll_eq, Levels.grade_eq, Naming.report_build]

/-- An element that is skipped is reported as such only, and a renamed class after all else. -/
example :
    let config : CodegenConfig := ⟨{}, { unsupportedElement := .warn }⟩
    let types : List ContentType :=
      [⟨"post", none, []⟩, ⟨"Post", none,
        [⟨"a_b", "text", none⟩, ⟨"a__b", "number", none⟩, ⟨"C", "zzz", none⟩]⟩]
    (config.generate types).diagnostics.items.map (fun item => (item.kind.id, item.element)) =
      [("C003", none), ("C003", some "a__b"), ("C002", some "a__b"), ("C001", some "C"),
        ("C004", none)] := by
  decide

end ContentClasses
