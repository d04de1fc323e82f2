import ContentClasses.Proofs.Model.Batches
import ContentClasses.Proofs.Naming.Reversal
import ContentClasses.Proofs.Schema.Forms

/-! Without acronyms, elements and content types whose codenames can be read off their names keep
the names that they want. -/

namespace ContentClasses

namespace Naming

variable {naming : Naming}

/-- No field of a class is renamed: each has the member name of its codename. -/
def RenamesNoField (naming : Naming) (type : ContentType) : Prop :=
  (naming.build type).fields.map (·.name) =
    (naming.build type).fields.map fun field => naming.memberName field.source

/-- No field is renamed exactly if all elements with a type want different names. -/
theorem renamesNoField_iff_nodup {type : ContentType} :
    naming.RenamesNoField type ↔ (naming.wantedMembers type.elements).Nodup := by
  -- The first field of a class finds no name taken, so only the wanted names matter.
  rw [RenamesNoField, build_fields, newFields_names, ← wantedMembers_eq, List.map_nil,
    givenNames_eq_self_iff]
  simp

/-- The codenames of elements with a type differ if those of all elements do. -/
theorem nodup_typedElements {elements : List Element} (distinct : DistinctCodenames elements) :
    ((typedElements elements).map fun (element, _) => element.codename).Nodup := by
  have kept : ((typedElements elements).map fun (element, _) => element.codename).Sublist
      (elements.map (·.codename)) := by
    -- An element has its place in the shorter list, or none.
    induction elements with
    | nil => simp [typedElements]
    | cons element rest ih =>
      have shorter := ih (List.nodup_cons.mp distinct).2
      rw [typedElements_cons]
      cases TypeDescriptor.ofTag? element.tag with
      | none => exact shorter.cons element.codename
      | some type => exact shorter.cons_cons element.codename
  exact distinct.sublist kept

/-- An element with a type is one of the elements. -/
theorem mem_of_mem_typedElements {elements : List Element} {element : Element}
    {type : TypeDescriptor} (member : (element, type) ∈ typedElements elements) :
    element ∈ elements := by
  -- The list of typed elements keeps each of them beside its type.
  obtain ⟨other, among, typed⟩ := List.mem_filterMap.mp member
  obtain ⟨_, -, same⟩ := Option.map_eq_some_iff.mp typed
  cases same
  exact among

/-- Elements with reversible codenames of their own want different names. -/
theorem nodup_wantedMembers (plain : naming.acronyms = .empty) {elements : List Element}
    (distinct : DistinctCodenames elements)
    (each : ∀ element ∈ elements, Reversible element.codename) :
    (naming.wantedMembers elements).Nodup := by
  have apart := nodup_typedElements distinct
  -- The wanted names are made of the codenames alone.
  have wanted : naming.wantedMembers elements =
      ((typedElements elements).map fun (element, _) => element.codename).map
        naming.memberName := by
    rw [wantedMembers, List.map_map]
    rfl
  have reversible {codename : String}
      (member : codename ∈ (typedElements elements).map fun (element, _) => element.codename) :
      Reversible codename := by
    obtain ⟨⟨element, _⟩, among, rfl⟩ := List.mem_map.mp member
    exact each element (mem_of_mem_typedElements among)
  -- Two codenames with one name would be read back as the same codename.
  rw [wanted]
  exact apart.map_on fun left first right second same =>
    eq_of_memberName plain (reversible first) (reversible second) same

/-- Content types with reversible codenames of their own want different class names. -/
theorem nodup_wantedClasses (plain : naming.acronyms = .empty) {types : List ContentType}
    (distinct : (types.map (·.codename)).Nodup)
    (each : ∀ type ∈ types, Reversible type.codename) : (naming.wantedClasses types).Nodup := by
  -- The wanted names are made of the codenames alone, as they are for members.
  have wanted : naming.wantedClasses types = (types.map (·.codename)).map naming.typeName := by
    rw [wantedClasses, List.map_map]
    rfl
  have reversible {codename : String} (member : codename ∈ types.map (·.codename)) :
      Reversible codename := by
    obtain ⟨type, among, rfl⟩ := List.mem_map.mp member
    exact each type among
  rw [wanted]
  exact distinct.map_on fun left first right second same =>
    eq_of_typeName plain (reversible first) (reversible second) same

/-- Names that are made of reversible codenames can be read back. -/
structure ReadsBack (naming : Naming) : Prop where
  /-- A member name gives its codename back. -/
  member : ∀ codename, Reversible codename →
    codenameOfMember (naming.memberName codename) = codename
  /-- A class name gives its codename back. -/
  type : ∀ codename, Reversible codename → codenameOfType (naming.typeName codename) = codename
  /-- Different codenames have different names of either kind. -/
  apart : ∀ left right, Reversible left → Reversible right → left ≠ right →
    naming.memberName left ≠ naming.memberName right ∧
      naming.typeName left ≠ naming.typeName right
  /-- Elements with different codenames keep their member names. -/
  fields : ∀ type : ContentType, DistinctCodenames type.elements →
    (∀ element ∈ type.elements, Reversible element.codename) → naming.RenamesNoField type
  /-- Content types with different codenames keep their class names. -/
  classes : ∀ types : List ContentType, (types.map (·.codename)).Nodup →
    (∀ type ∈ types, Reversible type.codename) → naming.RenamesNone types

end Naming

/-- Without acronyms, snake-case codenames whose later words start with letters can be read off the
names made of them, so that these names differ and are never changed. -/
theorem names_read_back {naming : Naming} (plain : naming.acronyms = .empty) :
    naming.ReadsBack := by
  refine ⟨fun codename => Naming.codenameOfMember_memberName plain,
    fun codename => Naming.codenameOfType_typeName plain,
    fun left right first second other => ⟨fun same => ?_, fun same => ?_⟩,
    fun type distinct each => ?_, fun types distinct each => ?_⟩
  · -- Names that are equal are read back as one codename.
    exact other (Naming.eq_of_memberName plain first second same)
  · exact other (Naming.eq_of_typeName plain first second same)
  · -- No name is wanted twice, so none is a variant.
    exact Naming.renamesNoField_iff_nodup.mpr (Naming.nodup_wantedMembers plain distinct each)
  · exact Naming.renamesNone_iff_nodup.mpr (Naming.nodup_wantedClasses plain distinct each)

/-- Digits in a word or in front of the first one do no harm. -/
theorem names_read_back_digits :
    let naming : Naming := {}
    let type : ContentType := ⟨"3d_model_v2", none,
      [⟨"2x_image", "asset", none⟩, ⟨"image2_x", "asset", none⟩, ⟨"image2x", "text", none⟩]⟩
    naming.acronyms = .empty ∧ Reversible type.codename ∧
      naming.typeName type.codename = "3dModelV2" ∧ codenameOfType "3dModelV2" = "3d_model_v2" ∧
      naming.memberName type.codename = "3dModelV2" ∧
      codenameOfMember "3dModelV2" = "3d_model_v2" ∧
      (naming.build type).fields.map (·.name) = ["2xImage", "image2X", "image2x"] ∧
      naming.RenamesNoField type := by
  intro naming type
  have reads : naming.ReadsBack := names_read_back rfl
  -- The codename has a word that begins with a digit only in front.
  have whole : Reversible type.codename := ⟨by decide, by decide⟩
  have classNamed : naming.typeName type.codename = "3dModelV2" := by decide
  have memberNamed : naming.memberName type.codename = "3dModelV2" := by decide
  have each : ∀ element ∈ type.elements, Reversible element.codename := by
    simp only [type, List.forall_mem_cons]
    exact ⟨⟨by decide, by decide⟩, ⟨by decide, by decide⟩, ⟨by decide, by decide⟩, by simp⟩
  refine ⟨rfl, whole, classNamed, ?_, memberNamed, ?_, by decide,
    reads.fields type (by decide) each⟩
  · rw [← classNamed]
    exact reads.type _ whole
  · rw [← memberNamed]
    exact reads.member _ whole

/-- A word that opens with a digit leaves no capital behind, so its codename cannot be told from the
one in which it is no word of its own. -/
example : ({} : Naming).memberName "image_2x" = ({} : Naming).memberName "image2x" := by
  decide

end ContentClasses
