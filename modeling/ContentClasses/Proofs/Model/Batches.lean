import ContentClasses.Proofs.Model.Report
import ContentClasses.Proofs.Naming.Holders
import Mathlib.Data.List.Forall2

/-! Batches beside each other: one whose elements without a type are others, one that goes on where
the other ends, and one in another order. -/

namespace ContentClasses

/-- Two lists of elements are the same but for elements whose tag has no type, of which either list
may have any number anywhere. -/
inductive SameButUntyped : List Element → List Element → Prop
  | nil : SameButUntyped [] []
  | both (element : Element) {left right : List Element} :
    SameButUntyped left right → SameButUntyped (element :: left) (element :: right)
  | left {element : Element} {left right : List Element} :
    TypeDescriptor.ofTag? element.tag = none → SameButUntyped left right →
      SameButUntyped (element :: left) right
  | right {element : Element} {left right : List Element} :
    TypeDescriptor.ofTag? element.tag = none → SameButUntyped left right →
      SameButUntyped left (element :: right)

/-- Two content types have one codename, and elements that differ in some without a type only. -/
structure ContentType.SameButUntyped (type other : ContentType) : Prop where
  codename_eq : other.codename = type.codename
  elements : ContentClasses.SameButUntyped type.elements other.elements

/-- An element in front stands before the others with its type, if it has one. -/
theorem typedElements_cons (element : Element) (rest : List Element) :
    typedElements (element :: rest) =
      ((TypeDescriptor.ofTag? element.tag).map (element, ·)).toList ++ typedElements rest := by
  cases typed : TypeDescriptor.ofTag? element.tag <;> simp [typedElements, typed]

/-- Lists that differ in untyped elements only have the same typed ones in the same order. -/
theorem SameButUntyped.typedElements_eq {left right : List Element}
    (same : SameButUntyped left right) : typedElements right = typedElements left := by
  -- An element that only one of the lists has adds nothing to that list.
  induction same with
  | nil => rfl
  | both element _ ih => rw [typedElements_cons, typedElements_cons, ih]
  | left untyped _ ih =>
    rw [typedElements_cons, untyped, ih]
    rfl
  | right untyped _ ih =>
    rw [typedElements_cons, untyped, ← ih]
    rfl

namespace Naming

variable {naming : Naming}

/-- The fields of a class depend on the elements with a type only. -/
theorem newFields_congr {elements others : List Element}
    (same : typedElements others = typedElements elements) (earlier : List FieldSpec) :
    naming.newFields earlier others = naming.newFields earlier elements := by
  simp only [newFields, wantedMembers, same]

/-- Content types that differ in untyped elements only have the same class. -/
theorem build_sameButUntyped {type other : ContentType} (same : type.SameButUntyped other) :
    naming.build other = naming.build type := by
  have fields : naming.fieldsAfter [] other.elements = naming.fieldsAfter [] type.elements := by
    rw [fieldsAfter_eq, fieldsAfter_eq, newFields_congr same.elements.typedElements_eq]
  simp only [build, fields, classWith, same.codename_eq]

/-- The loop over a batch is the same for content types that each have the same class. -/
theorem classesAfter_congr {types others : List ContentType}
    (same : List.Forall₂ (fun type other => naming.build other = naming.build type) types others)
    (earlier : List ClassSpec) :
    naming.classesAfter earlier others = naming.classesAfter earlier types := by
  -- Equal classes are renamed alike, so the earlier classes stay equal on both sides.
  induction same generalizing earlier with
  | nil => rfl
  | cons first _ ih => rw [classesAfter, classesAfter, first, ih]

/-- The loop over a batch goes on after its front part with the classes of that. -/
theorem classesAfter_append (earlier : List ClassSpec) (front back : List ContentType) :
    naming.classesAfter earlier (front ++ back) =
      naming.classesAfter (naming.classesAfter earlier front) back := by
  -- The loop carries its classes along, so it can be stopped and taken up anywhere.
  induction front generalizing earlier with
  | nil => rfl
  | cons first rest ih => rw [List.cons_append, classesAfter, classesAfter, ih]

/-- A batch that goes on has the classes of its front part first. -/
theorem generateAll_append (naming : Naming) (front back : List ContentType) :
    naming.generateAll (front ++ back) =
      naming.generateAll front ++ naming.newClasses (naming.generateAll front) back := by
  -- Nothing that comes later can reach back to the classes of the front part.
  rw [generateAll, classesAfter_append, ← generateAll, classesAfter_eq]

/-- No class of a batch is renamed: each has the name that it is built with. -/
def RenamesNone (naming : Naming) (types : List ContentType) : Prop :=
  (naming.generateAll types).map (·.name) = types.map fun type => (naming.build type).name

/-- No class is renamed exactly if all content types want different class names. -/
theorem renamesNone_iff_nodup {types : List ContentType} :
    naming.RenamesNone types ↔ (naming.wantedClasses types).Nodup := by
  have built : (types.map fun type => (naming.build type).name) = naming.wantedClasses types := rfl
  -- The first class of a batch finds no name taken, so only the wanted names matter.
  rw [RenamesNone, built, generateAll_names_eq, givenNames_eq_self_iff]
  simp

/-- Where no class is renamed, each is the one that its content type has alone. -/
theorem RenamesNone.eq_map_build {types : List ContentType} (kept : naming.RenamesNone types) :
    naming.generateAll types = types.map naming.build := by
  -- Every class is the one built alone under its given name, which is the name it was built with.
  have given : givenNames [] (naming.wantedClasses types) = naming.wantedClasses types := by
    rw [← generateAll_names_eq]
    exact kept
  rw [generateAll_eq, newClasses, List.map_nil, given, wantedClasses, ← List.map_prod_left_eq_zip,
    List.map_map]
  rfl

/-- In another order, too, no class is renamed. -/
theorem RenamesNone.perm {types others : List ContentType} (kept : naming.RenamesNone types)
    (perm : types.Perm others) : naming.RenamesNone others := by
  -- Whether names differ from each other does not depend on their order.
  rw [renamesNone_iff_nodup] at kept ⊢
  exact (perm.map _).nodup_iff.mp kept

/-- Nothing found about a codename is a collision of class names. -/
theorem kind_of_mem_codenameFindings {type : ContentType} {finding : Finding}
    (found : finding ∈ codenameFindings type) : finding.kind ≠ .classNameCollision := by
  unfold codenameFindings at found
  split at found <;> simp_all

/-- Nothing found about an element is a collision of class names. -/
theorem kind_of_mem_elementFindings {contentType : String} {element : Element}
    {field : Option FieldSpec} {finding : Finding}
    (found : finding ∈ naming.elementFindings contentType element field) :
    finding.kind ≠ .classNameCollision := by
  -- An element is unsupported, or each of two checks reports a finding of its own kind or none.
  cases field with
  | none => simp_all [elementFindings]
  | some field =>
    rcases List.mem_append.mp found with malformed | renamed
    · split at malformed <;> simp_all
    · split at renamed <;> simp_all

/-- A content type shows a collision of class names exactly if its class is renamed. -/
theorem report_collides_iff {type : ContentType} {spec : ClassSpec} :
    (∀ finding ∈ naming.report type spec, finding.kind ≠ .classNameCollision) ↔
      spec.name = (naming.build type).name := by
  constructor
  · -- A renamed class would be reported last.
    intro clean
    refine Decidable.byContradiction fun renamed => ?_
    have shown : ∃ finding ∈ renamingFindings type (naming.build type) spec,
        finding.kind = .classNameCollision := by
      rw [renamingFindings, if_neg renamed]
      exact ⟨_, List.mem_singleton_self _, rfl⟩
    obtain ⟨finding, found, collides⟩ := shown
    exact clean finding (List.mem_append_right _ found) collides
  · -- What is left are the findings about codenames and elements.
    intro kept finding found
    rw [report, renamingFindings, if_pos kept, List.append_nil] at found
    rcases List.mem_append.mp found with codename | element
    · exact kind_of_mem_codenameFindings codename
    · obtain ⟨beside, -, here⟩ := List.mem_flatMap.mp element
      exact kind_of_mem_elementFindings here

/-- No class is renamed exactly if no collision of class names is found. -/
theorem renamesNone_iff_findings {types : List ContentType} :
    naming.RenamesNone types ↔
      ∀ finding ∈ naming.batchFindings types, finding.kind ≠ .classNameCollision := by
  have pairs : naming.RenamesNone types ↔ List.Forall₂
      (fun type spec => spec.name = (naming.build type).name) types (naming.generateAll types) := by
    rw [RenamesNone, eq_comm, ← List.forall₂_eq_eq_eq, List.forall₂_map_left_iff,
      List.forall₂_map_right_iff]
    simp only [eq_comm]
  -- The findings about a batch are those that its content types show beside their classes.
  rw [pairs, List.forall₂_iff_zip, batchFindings, batchFindingsAfter_eq, ← generateAll_eq]
  simp only [naming.length_generateAll, true_and, List.mem_flatMap]
  constructor
  · rintro kept finding ⟨⟨type, spec⟩, beside, found⟩
    exact report_collides_iff.mpr (kept beside) finding found
  · intro clean type spec beside
    exact report_collides_iff.mp fun finding found => clean finding ⟨(type, spec), beside, found⟩

end Naming

end ContentClasses
