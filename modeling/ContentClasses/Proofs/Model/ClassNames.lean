import ContentClasses.Proofs.Model.Findings
import ContentClasses.Proofs.Naming.FreeName

/-! The classes of a batch are those of its content types built alone, under names of their own. -/

namespace ContentClasses

namespace Naming

/-- The names wanted for the classes of a list of content types. -/
def wantedClasses (naming : Naming) (types : List ContentType) : List String :=
  types.map fun type => naming.typeName type.codename

/-- The classes for a list of content types, without those built earlier. -/
def newClasses (naming : Naming) (earlier : List ClassSpec) (types : List ContentType) :
    List ClassSpec :=
  (types.zip (givenNames (earlier.map (·.name)) (naming.wantedClasses types))).map
    fun (type, name) => { naming.build type with name }

/-- A built class has the type name of its codename, until it is renamed. -/
@[simp] theorem build_name (naming : Naming) (type : ContentType) :
    (naming.build type).name = naming.typeName type.codename :=
  rfl

/-- The loop over a batch builds each content type alone and names the classes in order. -/
theorem classesAfter_eq (naming : Naming) (earlier : List ClassSpec) (types : List ContentType) :
    naming.classesAfter earlier types = earlier ++ naming.newClasses earlier types := by
  -- The name of a finished class is among the taken ones for all later classes.
  induction types generalizing earlier with
  | nil => simp [classesAfter, newClasses]
  | cons type rest ih =>
    rw [classesAfter, ih]
    simp [newClasses, wantedClasses, givenNames, ClassSpec.renamedAfter]

/-- A whole batch starts without earlier classes. -/
theorem generateAll_eq (naming : Naming) (types : List ContentType) :
    naming.generateAll types = naming.newClasses [] types := by
  simp [generateAll, classesAfter_eq]

/-- Every content type is given one class name. -/
theorem length_givenClasses (naming : Naming) (taken : List String) (types : List ContentType) :
    (givenNames taken (naming.wantedClasses types)).length = types.length := by
  simp [wantedClasses]

/-- The new classes carry the names given for the content types. -/
theorem newClasses_names (naming : Naming) (earlier : List ClassSpec) (types : List ContentType) :
    (naming.newClasses earlier types).map (·.name) =
      givenNames (earlier.map (·.name)) (naming.wantedClasses types) := by
  -- There is a content type beside every given name, so pairing them drops none.
  rw [newClasses, List.map_map]
  exact List.map_snd_zip (Nat.le_of_eq (naming.length_givenClasses _ types))

/-- The classes of a batch carry the names given for the content types. -/
theorem generateAll_names_eq (naming : Naming) (types : List ContentType) :
    (naming.generateAll types).map (·.name) = givenNames [] (naming.wantedClasses types) := by
  simp [generateAll_eq, newClasses_names]

/-- A batch has one class for each content type. -/
@[simp] theorem length_generateAll (naming : Naming) (types : List ContentType) :
    (naming.generateAll types).length = types.length := by
  simp [generateAll_eq, newClasses, naming.length_givenClasses]

/-- The names of the classes of a batch differ from each other. -/
theorem generateAll_names_nodup (naming : Naming) (types : List ContentType) :
    ((naming.generateAll types).map (·.name)).Nodup := by
  -- Every name was searched for while all earlier ones were taken.
  rw [generateAll_names_eq]
  exact nodup_append_givenNames List.nodup_nil _

/-- The class at a position of a batch is the one built alone, under the first free name after the
names before it. -/
theorem generateAll_getElem? (naming : Naming) (types : List ContentType) (position : Nat) :
    (naming.generateAll types)[position]? = types[position]?.map fun type =>
      { naming.build type with
        name := firstFree (naming.typeName type.codename)
          (((naming.generateAll types).take position).map (·.name)) } := by
  -- Both sides look at the same position of the content types and of the given names.
  have searched := getElem?_givenNames [] (naming.wantedClasses types) position
  rw [List.map_take, generateAll_names_eq, generateAll_eq, newClasses, List.getElem?_map]
  simp only [List.map_nil, List.zip, List.getElem?_zipWith', searched, List.nil_append]
  simp only [wantedClasses, List.getElem?_map]
  cases types[position]? <;> rfl

/-- Every class of a batch has the first free variant of a content type's class name. -/
theorem generateAll_name_of_mem {naming : Naming} {types : List ContentType} {spec : ClassSpec}
    (member : spec ∈ naming.generateAll types) :
    ∃ type ∈ types, ∃ taken, spec.name = firstFree (naming.typeName type.codename) taken := by
  -- The class stands at some position, where the search that named it is known.
  obtain ⟨position, placed⟩ := List.getElem?_of_mem member
  rw [generateAll_getElem?] at placed
  obtain ⟨type, found, same⟩ := Option.map_eq_some_iff.mp placed
  exact ⟨type, List.mem_of_getElem? found, _, (congrArg ClassSpec.name same).symm⟩

end Naming

/-- A batch has one class for each content type in order: the one built alone, under the first free
variant of its type name after all names before it, so that no two classes share a name. -/
theorem generateAll_first_free (config : CodegenConfig) (types : List ContentType) :
    let specs := config.naming.generateAll types
    specs.length = types.length ∧
    (specs.map (·.name)).Nodup ∧
    ∀ position : Fin types.length, ∃ spec, specs[position]? = some spec ∧
      spec = { config.naming.build types[position] with name := spec.name } ∧
      IsFirstFree (config.naming.typeName types[position].codename)
        ((specs.take position).map (·.name)) spec.name := by
  refine ⟨config.naming.length_generateAll types, config.naming.generateAll_names_nodup types,
    fun position => ?_⟩
  have placed := config.naming.generateAll_getElem? types position
  rw [List.getElem?_eq_getElem position.isLt] at placed
  exact ⟨_, placed, rfl, firstFree_isFirstFree _ _⟩

/-- A renamed class can take the name that a later content type asks for. -/
example :
    (({} : Naming).generateAll
      [⟨"hero_3", none, []⟩, ⟨"hero3", none, []⟩, ⟨"hero_32", none, []⟩]).map (·.name) =
        ["Hero3", "Hero32", "Hero322"] := by
  decide

end ContentClasses
