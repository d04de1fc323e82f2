import ContentClasses.Proofs.Model.ClassNames
import ContentClasses.Proofs.Model.Fields

/-! The members of a finished class by position are its fields, each beside its own getter and
setter, and all three are found again by the name of the field. -/

namespace ContentClasses

/-- The accessor of a kind for a field. -/
def FieldSpec.accessor (field : FieldSpec) (kind : AccessorKind) : AccessorSpec :=
  ⟨kind, accessorName kind field.name, field.name⟩

/-- A field has a getter and then a setter. -/
theorem FieldSpec.accessors_eq (field : FieldSpec) :
    field.accessors = [field.accessor .getter, field.accessor .setter] :=
  rfl

/-- The item with a key is the only one that has it in a list where no two items share theirs. -/
theorem filter_of_nodup {α : Type} {key : α → String} {items : List α} {item : α}
    (distinct : (items.map key).Nodup) (member : item ∈ items) :
    items.filter (fun other => key other = key item) = [item] := by
  -- An item in front of the wanted one has another key, and so has every item behind it.
  induction items with
  | nil => cases member
  | cons first rest ih =>
    rw [List.map_cons, List.nodup_cons] at distinct
    rcases List.mem_cons.mp member with rfl | later
    · have others : rest.filter (fun other => key other = key item) = [] := by
        simp only [List.filter_eq_nil_iff, decide_eq_true_eq]
        intro other among same
        exact distinct.1 (same ▸ List.mem_map_of_mem among)
      simp [others]
    · have other : key first ≠ key item := by
        intro same
        exact distinct.1 (same ▸ List.mem_map_of_mem later)
      simpa [List.filter_cons, other] using ih distinct.2 later

/-- The item with a key is found by it in a list where no two items share theirs. -/
theorem find?_of_nodup {α : Type} {key : α → String} {items : List α} {item : α}
    (distinct : (items.map key).Nodup) (member : item ∈ items) :
    items.find? (fun other => key other = key item) = some item := by
  rw [← List.head?_filter, filter_of_nodup distinct member]
  rfl

/-- The accessors for a name are those of the fields that have it. -/
theorem filter_accessors (fields : List FieldSpec) (name : String) :
    (fields.flatMap FieldSpec.accessors).filter (·.field = name) =
      (fields.filter (·.name = name)).flatMap FieldSpec.accessors := by
  -- The two accessors of a field both have its name, so they are kept or dropped together.
  induction fields with
  | nil => rfl
  | cons first rest ih =>
    rw [List.flatMap_cons, List.filter_append, ih]
    by_cases same : first.name = name <;>
      simp [FieldSpec.accessors_eq, FieldSpec.accessor, same]

/-- The accessors of a list of fields are cut into the pairs of each field. -/
theorem adjacentPairs_accessors (fields : List FieldSpec) :
    adjacentPairs (fields.flatMap FieldSpec.accessors) =
      fields.map fun field => (field.accessor .getter, field.accessor .setter) := by
  -- Each field has exactly two accessors, which are cut off as one pair.
  induction fields with
  | nil => rfl
  | cons field rest ih =>
    rw [List.flatMap_cons, FieldSpec.accessors_eq]
    simp [adjacentPairs, ih]

namespace ClassSpec

variable {spec : ClassSpec}

/-- The fields of a class have names of their own, and its accessors are theirs in order. -/
structure Paired (spec : ClassSpec) : Prop where
  distinct : (spec.fields.map (·.name)).Nodup
  accessors_eq : spec.accessors = spec.fields.flatMap FieldSpec.accessors

/-- The name of a class has no part in its members. -/
theorem Paired.renamed (paired : spec.Paired) (name : String) : { spec with name }.Paired :=
  ⟨paired.distinct, paired.accessors_eq⟩

/-- By position every field stands beside its own two accessors. -/
theorem Paired.members_eq (paired : spec.Paired) :
    spec.members = spec.fields.map fun field =>
      (field, field.accessor .getter, field.accessor .setter) := by
  rw [members, paired.accessors_eq, adjacentPairs_accessors, List.map_prod_left_eq_zip]

/-- By position no accessor is left over. -/
theorem Paired.members_accessors (paired : spec.Paired) :
    spec.members.flatMap (fun (_, getter, setter) => [getter, setter]) = spec.accessors := by
  rw [paired.members_eq, List.flatMap_map, paired.accessors_eq]
  rfl

/-- By name a field and its accessors are the ones that stand beside each other by position. -/
structure MembersAgree (spec : ClassSpec) : Prop where
  /-- By position every field comes once, in order. -/
  fields : spec.members.map (·.1) = spec.fields
  /-- No two fields share a name. -/
  distinct : (spec.fields.map (·.name)).Nodup
  /-- The name of a field leads back to that field. -/
  field : ∀ field getter setter, (field, getter, setter) ∈ spec.members →
    spec.field? field.name = some field
  /-- It leads to the accessors beside the field, each under its kind. -/
  accessor : ∀ field getter setter, (field, getter, setter) ∈ spec.members →
    spec.accessor? .getter field.name = some getter ∧
      spec.accessor? .setter field.name = some setter
  /-- There are no other accessors for that name. -/
  only : ∀ field getter setter, (field, getter, setter) ∈ spec.members →
    spec.accessors.filter (·.field = field.name) = [getter, setter]

/-- The accessors with the name of a field are its own. -/
theorem Paired.filter_accessors (paired : spec.Paired) {field : FieldSpec}
    (member : field ∈ spec.fields) :
    spec.accessors.filter (·.field = field.name) =
      [field.accessor .getter, field.accessor .setter] := by
  rw [paired.accessors_eq, ContentClasses.filter_accessors,
    filter_of_nodup paired.distinct member, List.flatMap_singleton, FieldSpec.accessors_eq]

/-- The accessor of a kind is found under the name of its field. -/
theorem Paired.accessor?_name (paired : spec.Paired) {field : FieldSpec}
    (member : field ∈ spec.fields) (kind : AccessorKind) :
    spec.accessor? kind field.name = some (field.accessor kind) := by
  -- Only the accessors of the field have its name, and they differ in their kinds.
  have searched : spec.accessor? kind field.name =
      (spec.accessors.filter (·.field = field.name)).find? (·.kind = kind) := by
    simp [accessor?, List.find?_filter, Bool.and_comm]
  rw [searched, paired.filter_accessors member]
  cases kind <;> rfl

/-- Where accessors are those of the fields in order, the ways to a member agree. -/
theorem Paired.membersAgree (paired : spec.Paired) : spec.MembersAgree := by
  -- What stands at a position is a field with its own getter and setter.
  have own {field : FieldSpec} {getter setter : AccessorSpec}
      (member : (field, getter, setter) ∈ spec.members) :
      field ∈ spec.fields ∧ getter = field.accessor .getter ∧ setter = field.accessor .setter := by
    rw [paired.members_eq] at member
    obtain ⟨_, inside, same⟩ := List.mem_map.mp member
    cases same
    exact ⟨inside, rfl, rfl⟩
  refine ⟨?_, paired.distinct, fun field getter setter member => ?_,
    fun field getter setter member => ?_, fun field getter setter member => ?_⟩
  · -- The parts by position are those of the fields, and keys that are unique lead to the same.
    simp [paired.members_eq, Function.comp_def]
  · exact find?_of_nodup paired.distinct (own member).1
  · obtain ⟨inside, rfl, rfl⟩ := own member
    exact ⟨paired.accessor?_name inside .getter, paired.accessor?_name inside .setter⟩
  · obtain ⟨inside, rfl, rfl⟩ := own member
    exact paired.filter_accessors inside

end ClassSpec

/-- A field that the loop over the elements makes has the type of an element and a variant of its
member name. -/
theorem Naming.mem_fieldsAfter {naming : Naming} {earlier : List FieldSpec}
    {elements : List Element} {field : FieldSpec}
    (member : field ∈ naming.fieldsAfter earlier elements) :
    field ∈ earlier ∨ ∃ element ∈ elements, ∃ taken,
      TypeDescriptor.ofTag? element.tag = some field.type ∧ field.source = element.codename ∧
        field.name = firstFree (naming.memberName element.codename) taken := by
  -- Each element adds its own field to the earlier ones, if it has one.
  induction elements generalizing earlier with
  | nil => exact .inl member
  | cons element rest ih =>
    rcases ih member with here | ⟨other, among, made⟩
    · rcases List.mem_append.mp here with before | added
      · exact .inl before
      · obtain ⟨type, typed, rfl⟩ := Option.map_eq_some_iff.mp (Option.mem_toList.mp added)
        exact .inr ⟨element, List.mem_cons_self, _, typed, rfl, rfl⟩
    · exact .inr ⟨other, List.mem_cons_of_mem element among, made⟩

/-- A field of a class that is built has a variant of the member name of a supported element. -/
theorem Naming.mem_build_fields {naming : Naming} {type : ContentType} {field : FieldSpec}
    (member : field ∈ (naming.build type).fields) :
    ∃ element ∈ type.elements, ∃ taken,
      TypeDescriptor.ofTag? element.tag = some field.type ∧ field.source = element.codename ∧
        field.name = firstFree (naming.memberName element.codename) taken :=
  (naming.mem_fieldsAfter member).resolve_left List.not_mem_nil

/-- A class that is built has accessors for its own fields only. -/
theorem Naming.build_paired (naming : Naming) (type : ContentType) :
    (naming.build type).Paired :=
  ⟨(naming.build_membersFrom type).distinct, rfl⟩

/-- Every class of a batch has accessors for its own fields only. -/
theorem Naming.generateAll_paired {naming : Naming} {types : List ContentType} {spec : ClassSpec}
    (member : spec ∈ naming.generateAll types) : spec.Paired := by
  -- The batch only renames what was built alone.
  obtain ⟨position, placed⟩ := List.getElem?_of_mem member
  rw [generateAll_getElem?] at placed
  obtain ⟨type, -, rfl⟩ := Option.map_eq_some_iff.mp placed
  exact (naming.build_paired type).renamed _

/-- In every class, built alone or in a batch and with or without a collector, the members by
position are those by name. -/
theorem members_agree (config : CodegenConfig) (types : List ContentType) :
    (∀ type : ContentType, (config.naming.build type).MembersAgree ∧
      ∀ diagnostics : Diagnostics,
        (config.naming.buildReporting type diagnostics).1.MembersAgree) ∧
    ∀ spec : ClassSpec,
      spec ∈ config.naming.generateAll types ∨ spec ∈ (config.generate types).specs →
        spec.MembersAgree := by
  -- A class is built alone, with a collector or in a batch, and is paired in each case.
  refine ⟨fun type => ⟨(config.naming.build_paired type).membersAgree, fun diagnostics => ?_⟩,
    fun spec member => ?_⟩
  · rw [Naming.buildReporting_eq]
    exact (config.naming.build_paired type).membersAgree
  · rw [CodegenConfig.generate_specs, or_self] at member
    exact (Naming.generateAll_paired member).membersAgree

/-- Two elements that wish for one name, and one that wishes for the name given to the second. -/
theorem members_agree_colliding :
    let types : List ContentType := [⟨"post", none, []⟩, ⟨"Post", none,
      [⟨"a_b", "text", none⟩, ⟨"a__b", "number", none⟩, ⟨"map", "zzz", none⟩,
        ⟨"a_b2", "asset", none⟩]⟩]
    ∃ spec ∈ ({} : Naming).generateAll types,
      spec.members.map (fun (field, getter, setter) => (field.name, getter.name, setter.name)) =
        [("aB", "getAB", "setAB"), ("aB2", "getAB2", "setAB2"), ("aB22", "getAB22", "setAB22")] ∧
      spec.MembersAgree := by
  intro types
  -- The second class is given another name than the one it wants.
  have second : (({} : Naming).generateAll types)[1]? =
      some { ({} : Naming).build types[1] with name := "Post2" } := by
    decide +kernel
  have member := List.mem_of_getElem? second
  exact ⟨_, member, by decide +kernel, (members_agree {} types).2 _ (.inl member)⟩

end ContentClasses
