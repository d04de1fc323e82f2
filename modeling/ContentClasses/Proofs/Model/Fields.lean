import ContentClasses.Proofs.Model.Findings
import ContentClasses.Proofs.Naming.FreeName

/-! The fields of a built class are those of the elements that have a type, under names of their
own, and its accessors are theirs. -/

namespace ContentClasses

/-- The elements whose tag has a type, each with that type. -/
def typedElements (elements : List Element) : List (Element × TypeDescriptor) :=
  elements.filterMap fun element => (TypeDescriptor.ofTag? element.tag).map (element, ·)

/-- The names wanted for the fields of a list of elements. -/
def Naming.wantedMembers (naming : Naming) (elements : List Element) : List String :=
  (typedElements elements).map fun (element, _) => naming.memberName element.codename

/-- The fields made for a list of elements, without those made earlier. -/
def Naming.newFields (naming : Naming) (earlier : List FieldSpec) (elements : List Element) :
    List FieldSpec :=
  ((typedElements elements).zip
    (givenNames (earlier.map (·.name)) (naming.wantedMembers elements))).map
      fun ((element, type), name) => ⟨name, type, element.codename⟩

/-- The loop over the elements names the fields of the typed ones in order. -/
theorem Naming.fieldsAfter_eq (naming : Naming) (earlier : List FieldSpec)
    (elements : List Element) :
    naming.fieldsAfter earlier elements = earlier ++ naming.newFields earlier elements := by
  -- An element without a type changes neither the fields nor the names that are taken.
  induction elements generalizing earlier with
  | nil => simp [fieldsAfter, newFields, typedElements]
  | cons element rest ih =>
    rw [fieldsAfter, ih]
    cases typed : TypeDescriptor.ofTag? element.tag with
    | none => simp [field?, newFields, wantedMembers, typedElements, typed]
    | some type => simp [field?, newFields, wantedMembers, typedElements, typed, givenNames]

/-- Each of the typed elements is given one name. -/
theorem Naming.length_given (naming : Naming) (taken : List String) (elements : List Element) :
    (givenNames taken (naming.wantedMembers elements)).length =
      (typedElements elements).length := by
  simp [wantedMembers]

/-- The new fields carry the names given for the typed elements. -/
theorem Naming.newFields_names (naming : Naming) (earlier : List FieldSpec)
    (elements : List Element) :
    (naming.newFields earlier elements).map (·.name) =
      givenNames (earlier.map (·.name)) (naming.wantedMembers elements) := by
  -- There is a typed element beside every given name, so pairing them drops none.
  rw [newFields, List.map_map]
  exact List.map_snd_zip (Nat.le_of_eq (naming.length_given _ elements))

/-- The new fields carry the codenames and types of the typed elements. -/
theorem Naming.newFields_sources (naming : Naming) (earlier : List FieldSpec)
    (elements : List Element) :
    (naming.newFields earlier elements).map (fun field => (field.source, field.type)) =
      (typedElements elements).map fun (element, type) => (element.codename, type) := by
  -- There is a given name beside every typed element, so pairing them drops none.
  have kept := List.map_fst_zip
    (Nat.le_of_eq (naming.length_given (earlier.map (·.name)) elements).symm)
  conv => rhs; rw [← kept]
  rw [newFields, List.map_map, List.map_map]
  rfl

/-- The name wanted for a new field is the member name of the codename it carries. -/
theorem Naming.wantedMembers_eq (naming : Naming) (earlier : List FieldSpec)
    (elements : List Element) :
    naming.wantedMembers elements =
      (naming.newFields earlier elements).map fun field => naming.memberName field.source := by
  have carried := congrArg (List.map fun pair : String × TypeDescriptor => naming.memberName pair.1)
    (naming.newFields_sources earlier elements)
  simpa [wantedMembers, Function.comp_def] using carried.symm

/-- There are at most as many elements with a type as elements. -/
theorem length_typedElements_le (elements : List Element) :
    (typedElements elements).length ≤ elements.length :=
  List.length_filterMap_le ..

/-- Every field has two accessors. -/
theorem length_flatMap_accessors (fields : List FieldSpec) :
    (fields.flatMap FieldSpec.accessors).length = 2 * fields.length := by
  -- Each field adds a getter and a setter, whatever its name.
  induction fields with
  | nil => rfl
  | cons field rest ih =>
    simp only [List.flatMap_cons, List.length_append, ih, List.length_cons]
    simp only [FieldSpec.accessors, List.length_map, List.length_cons, List.length_nil]
    omega

/-- The members of a class are those that a list of elements asks for. -/
structure Naming.MembersFrom (naming : Naming) (elements : List Element) (spec : ClassSpec) :
    Prop where
  /-- There is one field for each element with a type, in order. -/
  sources : spec.fields.map (fun field => (field.source, field.type)) =
    (typedElements elements).map fun (element, type) => (element.codename, type)
  /-- No two fields share a name. -/
  distinct : (spec.fields.map (·.name)).Nodup
  /-- Each field has the first free variant of its member name, after the fields before it. -/
  named : ∀ position : Fin spec.fields.length,
    IsFirstFree (naming.memberName spec.fields[position].source)
      ((spec.fields.take position).map (·.name)) spec.fields[position].name
  /-- The accessors are the getter and then the setter of each field, under its final name. -/
  accessors : spec.accessors = spec.fields.flatMap fun field =>
    [⟨.getter, accessorName .getter field.name, field.name⟩,
      ⟨.setter, accessorName .setter field.name, field.name⟩]
  /-- There are at most as many fields as elements. -/
  fields_le : spec.fields.length ≤ elements.length
  /-- There are twice as many accessors as fields. -/
  length_accessors : spec.accessors.length = 2 * spec.fields.length

/-- The class for a content type has the members that its elements ask for. -/
theorem Naming.build_membersFrom (naming : Naming) (type : ContentType) :
    naming.MembersFrom type.elements (naming.build type) := by
  -- The fields are those that the loop over the elements adds.
  have fields : (naming.build type).fields = naming.newFields [] type.elements := by
    simp [build, classWith, fieldsAfter_eq]
  have names := naming.newFields_names [] type.elements
  have sources := naming.newFields_sources [] type.elements
  rw [← fields] at names sources
  refine ⟨sources, ?_, fun position => ?_, ?_, ?_, ?_⟩
  · -- The search never answers a name that is taken.
    rw [names]
    exact nodup_append_givenNames List.nodup_nil _
  · -- The name given at a position is the result of one search.
    have searched := getElem?_givenNames [] (naming.wantedMembers type.elements) position
    rw [naming.wantedMembers_eq [] type.elements, ← fields] at searched
    rw [naming.wantedMembers_eq [] type.elements, ← fields] at names
    simp only [List.map_nil] at names
    rw [← names] at searched
    have inside := position.isLt
    simp only [List.getElem?_map, List.getElem?_eq_getElem inside, Option.map_some,
      Option.some.injEq, List.nil_append, ← List.map_take] at searched
    simp only [Fin.getElem_fin, searched]
    exact firstFree_isFirstFree _ _
  · rfl
  · -- Not every element has a type, so there may be fewer fields.
    have count := congrArg List.length sources
    simp only [List.length_map] at count
    exact count ▸ length_typedElements_le type.elements
  · exact length_flatMap_accessors _

/-- Whether or not a collector listens, the class for a content type has exactly the fields and
accessors that its elements ask for. -/
theorem build_members (config : CodegenConfig) (type : ContentType) (diagnostics : Diagnostics) :
    config.naming.MembersFrom type.elements (config.naming.build type) ∧
      config.naming.MembersFrom type.elements
        (config.naming.buildReporting type diagnostics).1 := by
  rw [Naming.buildReporting_eq]
  exact ⟨Naming.build_membersFrom _ type, Naming.build_membersFrom _ type⟩

end ContentClasses
