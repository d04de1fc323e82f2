import ContentClasses.Proofs.Java.Layout
import ContentClasses.Proofs.Naming.Member

/-! Escaping by a text with an underscore keeps the members of a class apart, and away from the
words that Java reserves and the methods that it has already. -/

namespace ContentClasses.Java

section

variable {reserved : List String} {escape left right name : String}

/-- A name behind an escape if it is one of those that are reserved. -/
def escaped (reserved : List String) (escape name : String) : String :=
  if reserved.contains name then escape ++ name else name

/-- Field names are escaped as keywords. -/
theorem escapeKeyword_eq (profile : Profile) (name : String) :
    profile.escapeKeyword name = escaped keywords profile.keywordEscape name :=
  rfl

/-- Method names are escaped as inherited methods. -/
theorem escapeMethod_eq (profile : Profile) (name : String) :
    profile.escapeMethod name = escaped objectMethods profile.keywordEscape name :=
  rfl

/-- A reserved name is escaped. -/
theorem escaped_reserved (among : name ∈ reserved) :
    escaped reserved escape name = escape ++ name := by
  simp [escaped, among]

/-- Any other name stays as it is. -/
theorem escaped_free (free : name ∉ reserved) : escaped reserved escape name = name := by
  simp [escaped, free]

/-- Names without underscore stay apart under an escape that has one. -/
theorem eq_of_escaped (marked : '_' ∈ escape.toList) (plainLeft : '_' ∉ left.toList)
    (plainRight : '_' ∉ right.toList)
    (same : escaped reserved escape left = escaped reserved escape right) : left = right := by
  have apart {plain other : String} (absent : '_' ∉ plain.toList) : escape ++ other ≠ plain := by
    intro equal
    exact absent (by simp [← equal, marked])
  -- The underscore tells an escaped name from one that is not.
  by_cases amongLeft : left ∈ reserved <;> by_cases amongRight : right ∈ reserved
  · rw [escaped_reserved amongLeft, escaped_reserved amongRight] at same
    simpa using same
  · rw [escaped_reserved amongLeft, escaped_free amongRight] at same
    exact absurd same (apart plainRight)
  · rw [escaped_free amongLeft, escaped_reserved amongRight] at same
    exact absurd same.symm (apart plainLeft)
  · rwa [escaped_free amongLeft, escaped_free amongRight] at same

/-- An escape with an underscore leads away from reserved names without one. -/
theorem escaped_not_mem (marked : '_' ∈ escape.toList)
    (plain : ∀ word ∈ reserved, '_' ∉ word.toList) : escaped reserved escape name ∉ reserved := by
  -- An escaped name has the underscore that no reserved one has, and any other name is not
  -- reserved.
  by_cases among : name ∈ reserved
  · rw [escaped_reserved among]
    intro member
    exact plain _ member (by simp [marked])
  · rwa [escaped_free among]

end

/-- No keyword has an underscore. -/
theorem keywords_plain : ∀ word ∈ keywords, '_' ∉ word.toList := by decide +kernel

/-- No inherited method has an underscore. -/
theorem objectMethods_plain : ∀ word ∈ objectMethods, '_' ∉ word.toList := by decide +kernel

section

variable {spec : ClassSpec} {profile : Profile}

/-- Different fields keep different names when keywords are escaped. -/
theorem nodup_escapedFields (marked : '_' ∈ profile.keywordEscape.toList)
    (distinct : (spec.fields.map (·.name)).Nodup)
    (given : ∀ field ∈ spec.fields, IsMemberName field.name) :
    (spec.fields.map fun field => profile.escapeKeyword field.name).Nodup := by
  have fields : spec.fields.Nodup := List.Nodup.of_map _ distinct
  -- Two fields with one written name would have had one name before.
  refine fields.map_on ?_
  intro left inLeft right inRight same
  have names := eq_of_escaped marked (given left inLeft).joined (given right inRight).joined same
  exact List.inj_on_of_nodup_map distinct inLeft inRight names

/-- The accessors of a list of fields are those of both kinds for each field. -/
theorem accessors_eq_product (fields : List FieldSpec) :
    fields.flatMap FieldSpec.accessors =
      (fields.product [AccessorKind.getter, .setter]).map fun (field, kind) =>
        field.accessor kind := by
  simp only [List.product, List.map_flatMap, List.map_map]
  rfl

/-- Different accessors keep different names when inherited methods are escaped. -/
theorem nodup_escapedMethods (marked : '_' ∈ profile.keywordEscape.toList) (paired : spec.Paired)
    (given : ∀ field ∈ spec.fields, IsMemberName field.name) :
    (spec.accessors.map fun accessor => profile.escapeMethod accessor.name).Nodup := by
  have fields : spec.fields.Nodup := List.Nodup.of_map _ paired.distinct
  rw [paired.accessors_eq, accessors_eq_product, List.map_map]
  refine (fields.product (by decide)).map_on ?_
  rintro ⟨left, kindLeft⟩ inLeft ⟨right, kindRight⟩ inRight same
  have memberLeft : left ∈ spec.fields := (List.mem_product.mp inLeft).1
  have memberRight : right ∈ spec.fields := (List.mem_product.mp inRight).1
  have givenLeft := given left memberLeft
  have givenRight := given right memberRight
  -- The names before escaping tell the kinds and the fields apart.
  have names := eq_of_escaped marked (givenLeft.underscore_not_mem_accessorName kindLeft)
    (givenRight.underscore_not_mem_accessorName kindRight) same
  obtain ⟨rfl, members⟩ := givenLeft.eq_of_accessorName givenRight names
  rw [List.inj_on_of_nodup_map paired.distinct memberLeft memberRight members]

end

/-- The fields of a class for ASCII elements have member names. -/
theorem isMemberName_of_build (naming : Naming) {type : ContentType}
    (ascii : ∀ element ∈ type.elements, ∀ c ∈ element.codename.toList, c.toNat < 0x80) :
    ∀ field ∈ (naming.build type).fields, IsMemberName field.name := by
  -- Every field has a free variant of the name of its element.
  intro field member
  obtain ⟨element, among, taken, -, -, name⟩ := Naming.mem_build_fields member
  rw [name]
  exact (naming.isMemberName_memberName (ascii element among)).firstFree taken

/-- The members that are written for a class are apart from each other and from what Java has. -/
structure MembersApart (spec : ClassSpec) (package : String) (profile : Profile)
    (siblings : List String) : Prop where
  /-- The unit is made of the blocks that declare the members. -/
  rendered : renderClass spec package profile siblings = layout spec package profile siblings
  /-- The blocks declare the fields and the accessors of the class, in order. -/
  fields : declaredFields spec package profile siblings =
    spec.fields.map fun field => profile.escapeKeyword field.name
  methods : declaredMethods spec package profile siblings =
    spec.accessors.map fun accessor => profile.escapeMethod accessor.name
  /-- No two fields share a name, and no two methods do. -/
  fields_distinct : (declaredFields spec package profile siblings).Nodup
  methods_distinct : (declaredMethods spec package profile siblings).Nodup
  /-- No field is called by a word that Java reserves. -/
  fields_allowed : ∀ name ∈ declaredFields spec package profile siblings, name ∉ keywords
  /-- No method overrides one that every class inherits. -/
  methods_allowed : ∀ name ∈ declaredMethods spec package profile siblings, name ∉ objectMethods

/-- Escaping creates neither a duplicate member nor an override in a class whose elements have ASCII
codenames, malformed ones included. -/
theorem members_apart {type : ContentType} {profile : Profile} (config : CodegenConfig)
    (package : String) (siblings : List String)
    (ascii : ∀ element ∈ type.elements, ∀ c ∈ element.codename.toList, c.toNat < 0x80)
    (marked : '_' ∈ profile.keywordEscape.toList) :
    MembersApart (config.naming.build type) package profile siblings := by
  have paired := config.naming.build_paired type
  have given := isMemberName_of_build config.naming ascii
  refine ⟨renderClass_eq_layout paired, declaredFields_eq paired, declaredMethods_eq paired,
    ?_, ?_, ?_, ?_⟩
  · -- Fields with different names are declared under different names.
    rw [declaredFields_eq paired]
    exact nodup_escapedFields marked paired.distinct given
  · rw [declaredMethods_eq paired]
    exact nodup_escapedMethods marked paired given
  · -- A declared field was escaped, or there was no need to.
    intro name member
    rw [declaredFields_eq paired] at member
    obtain ⟨field, -, rfl⟩ := List.mem_map.mp member
    exact escaped_not_mem marked keywords_plain
  · -- A declared method was escaped, or there was no need to.
    intro name member
    rw [declaredMethods_eq paired] at member
    obtain ⟨accessor, -, rfl⟩ := List.mem_map.mp member
    exact escaped_not_mem marked objectMethods_plain

/-- Elements that are called `class` in three ways, or not at all, have members that stay apart. -/
theorem members_apart_class :
    let type : ContentType := ⟨"course", none,
      [⟨"class", "text", none⟩, ⟨"Class_", "number", none⟩, ⟨"CLASS", "asset", none⟩,
        ⟨"__", "text", none⟩, ⟨"", "text", none⟩]⟩
    let spec := ({} : CodegenConfig).naming.build type
    (∀ element ∈ type.elements, ∀ c ∈ element.codename.toList, c.toNat < 0x80) ∧
    '_' ∈ ({} : Profile).keywordEscape.toList ∧
    declaredFields spec "a.b" {} [] = ["_class", "class2", "class3", "", "2"] ∧
    declaredMethods spec "a.b" {} [] = ["_getClass", "setClass", "getClass2", "setClass2",
      "getClass3", "setClass3", "get", "set", "get2", "set2"] ∧
    MembersApart spec "a.b" {} [] := by
  -- All codenames are ASCII texts, also the empty one and the one of underscores.
  intro type spec
  have ascii : ∀ element ∈ type.elements, ∀ c ∈ element.codename.toList, c.toNat < 0x80 := by
    simp [type]
  have marked : '_' ∈ ({} : Profile).keywordEscape.toList := by decide
  exact ⟨ascii, marked, by decide +kernel, by decide +kernel,
    members_apart {} "a.b" [] ascii marked⟩

end ContentClasses.Java
