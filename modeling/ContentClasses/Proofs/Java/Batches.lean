import ContentClasses.Association
import ContentClasses.Proofs.Java.Siblings
import ContentClasses.Proofs.Model.Batches

/-! The sources of a batch stay what they are when elements without a type come and go, when content
types are appended that hide no type of `java.lang`, and when a batch without renamed classes is
reordered. -/

namespace ContentClasses.Java

/-- The units for the classes of a batch under their names, each written among all class names of
the batch. -/
def sources (package : String) (profile : Profile) (specs : List ClassSpec) :
    List (String × String) :=
  specs.map fun spec => (spec.name, renderClass spec package profile (specs.map (·.name)))

/-- All qualified names in a profile. -/
def Profile.names (profile : Profile) : List String := [
  profile.annotations.contentType, profile.annotations.element,
  profile.types.string, profile.types.number, profile.types.dateTime, profile.types.list,
  profile.types.option, profile.types.asset, profile.types.taxonomy, profile.types.contentItem]

variable {package : String} {profile : Profile}

/-- The names in a type are among those in the profile. -/
theorem typeNames_subset (profile : Profile) (type : TypeDescriptor) :
    profile.typeNames type ⊆ profile.names := by
  -- Every scalar and every runtime type has a name of its own in the profile.
  cases type with
  | scalar type => cases type <;> simp [Profile.typeNames, Profile.scalarName, Profile.names]
  | reference target => cases target <;> simp [Profile.typeNames, Profile.domainName, Profile.names]
  | listOf item => cases item <;> simp [Profile.typeNames, Profile.domainName, Profile.names]

/-- The names that are resolved for a unit are among those in the profile. -/
theorem resolvedNames_subset (profile : Profile) (spec : ClassSpec) :
    profile.resolvedNames spec ⊆ profile.names := by
  intro name resolved
  -- Each resolved name is that of an annotation or one for the type of a field.
  simp only [Profile.resolvedNames, Profile.fieldNames, List.mem_cons, List.mem_flatMap] at resolved
  rcases resolved with rfl | rfl | ⟨field, -, inside⟩
  · simp [Profile.names]
  · simp [Profile.names]
  · exact typeNames_subset profile field.type inside

/-- Classes have the same units among all class names that hide the same of the names in the
profile. -/
theorem units_among {siblings others : List String}
    (alike : HideAlike profile.names siblings others)
    (specs : List ClassSpec) :
    specs.map (fun spec => (spec.name, renderClass spec package profile others)) =
      specs.map fun spec => (spec.name, renderClass spec package profile siblings) := by
  refine List.map_congr_left fun spec _ => ?_
  -- What holds of all names in the profile holds of those that a unit resolves.
  have resolved : HideAlike (profile.resolvedNames spec) siblings others :=
    fun name member => alike name (resolvedNames_subset profile spec member)
  rw [renderClass_among resolved]

/-- The same classes in another order have the same units under the same names. -/
theorem sources_perm {specs others : List ClassSpec} (perm : specs.Perm others) :
    (sources package profile specs).Perm (sources package profile others) := by
  -- A class name is among those of the one batch exactly if it is among those of the other.
  have alike : HideAlike profile.names (others.map (·.name)) (specs.map (·.name)) :=
    fun name _ _ => (perm.map _).mem_iff
  rw [sources, units_among alike, sources]
  exact perm.map _

/-- Elements without a type can be removed from and inserted into the content types of a batch
anywhere: the batch has the same classes and the same sources. -/
theorem batch_skips_untyped (config : CodegenConfig) {types others : List ContentType}
    (same : List.Forall₂ ContentType.SameButUntyped types others) :
    config.naming.generateAll others = config.naming.generateAll types ∧
      ∀ package profile, sources package profile (config.naming.generateAll others) =
        sources package profile (config.naming.generateAll types) := by
  -- A unit is written from its class and the class names, so the classes decide everything.
  have classes : config.naming.generateAll others = config.naming.generateAll types :=
    Naming.classesAfter_congr (same.imp fun _ _ => Naming.build_sameButUntyped) []
  exact ⟨classes, fun package profile => by rw [classes]⟩

/-- Elements without a type come and go between elements that want one name, with names and with
codenames of their own or those of others. -/
theorem batch_skips_untyped_between :
    let types : List ContentType := [
      ⟨"post", none, [⟨"a_b", "text", none⟩, ⟨"c", "guidelines", none⟩, ⟨"a__b", "number", none⟩]⟩,
      ⟨"Post", none, []⟩]
    let others : List ContentType := [
      ⟨"post", none, [⟨"a_b", "zzz", none⟩, ⟨"a_b", "text", none⟩, ⟨"a_b_2", "zzz", some "B"⟩,
        ⟨"a__b", "number", none⟩]⟩,
      ⟨"Post", none, [⟨"post", "", none⟩]⟩]
    List.Forall₂ ContentType.SameButUntyped types others ∧
    (({} : Naming).generateAll others).map (fun spec => (spec.name, spec.fields.map (·.name))) =
      [("Post", ["aB", "aB2"]), ("Post2", [])] ∧
    ({} : Naming).generateAll others = ({} : Naming).generateAll types ∧
    sources "a.b" {} (({} : Naming).generateAll others) =
      sources "a.b" {} (({} : Naming).generateAll types) := by
  -- In the first type two elements come and go around the one that stays between them.
  intro types others
  have same : List.Forall₂ ContentType.SameButUntyped types others :=
    .cons ⟨rfl, .right (by decide) (.both _ (.left (by decide) (.right (by decide)
      (.both _ .nil))))⟩ (.cons ⟨rfl, .right (by decide) .nil⟩ .nil)
  have kept := batch_skips_untyped ⟨{}, {}⟩ same
  exact ⟨same, by decide +kernel, kept.1, kept.2 "a.b" {}⟩

/-- Content types that are appended to a batch leave its classes as they are, and its sources as
well unless one of the new classes has the simple name of a `java.lang` type in the profile. -/
theorem batch_append (config : CodegenConfig) (package : String) (profile : Profile)
    (types added : List ContentType) :
    let specs := config.naming.generateAll types
    let larger := config.naming.generateAll (types ++ added)
    larger.take types.length = specs ∧
      ((∀ spec ∈ larger.drop types.length, ∀ name ∈ profile.names,
          packageOf name = "java.lang" → spec.name ≠ simpleName name) →
        (sources package profile larger).take types.length = sources package profile specs) := by
  intro specs larger
  -- Every type gives one class, so the old classes are the first ones.
  have count : specs.length = types.length := config.naming.length_generateAll types
  have parts : larger = specs ++ config.naming.newClasses specs added :=
    config.naming.generateAll_append types added
  have front : larger.take types.length = specs := by
    rw [parts, ← count, List.take_left]
  refine ⟨front, fun harmless => ?_⟩
  -- The added classes are those behind the old ones.
  rw [parts, ← count, List.drop_left] at harmless
  -- A type that is hidden in the larger batch is hidden by a class that was there before.
  have alike : HideAlike profile.names (specs.map (·.name)) (larger.map (·.name)) := by
    intro name given builtIn
    rw [parts, List.map_append, List.mem_append]
    refine or_iff_left fun new => ?_
    obtain ⟨spec, member, named⟩ := List.mem_map.mp new
    exact harmless spec member name given builtIn named
  rw [sources, ← List.map_take, front, units_among alike, sources]

/-- A batch goes on with content types whose classes are renamed, or have the simple name of a type
from elsewhere. -/
theorem batch_append_harmless :
    let types : List ContentType :=
      [⟨"article", none, [⟨"title", "text", none⟩, ⟨"photo", "asset", none⟩]⟩]
    let added : List ContentType := [⟨"Article", none, []⟩, ⟨"asset", none, []⟩]
    let larger := ({} : Naming).generateAll (types ++ added)
    (∀ spec ∈ larger.drop types.length, ∀ name ∈ ({} : Profile).names,
      packageOf name = "java.lang" → spec.name ≠ simpleName name) ∧
    larger.map (·.name) = ["Article", "Article2", "Asset"] ∧
    larger.take types.length = ({} : Naming).generateAll types ∧
    (sources "a.b" {} larger).take types.length =
      sources "a.b" {} (({} : Naming).generateAll types) := by
  intro types added larger
  -- None of the added classes is called like a type of the language itself.
  have harmless : ∀ spec ∈ larger.drop types.length, ∀ name ∈ ({} : Profile).names,
      packageOf name = "java.lang" → spec.name ≠ simpleName name := by
    decide +kernel
  have kept := batch_append ⟨{}, {}⟩ "a.b" {} types added
  exact ⟨harmless, by decide +kernel, kept.1, kept.2 harmless⟩

/-- A new class that hides a type of `java.lang` changes how an earlier class writes that type. -/
example :
    let spec := ({} : Naming).build ⟨"article", none, [⟨"title", "text", none⟩]⟩
    nameText spec "a.b" {} ["Article"] "java.lang.String" = "String" ∧
      nameText spec "a.b" {} ["Article", "String"] "java.lang.String" = "java.lang.String" := by
  decide +kernel

/-- A batch in which no class is renamed can be listed in any order: no class is renamed then, every
content type has the class that it had, and under every class name stands the same source. -/
theorem batch_perm (config : CodegenConfig) (package : String) (profile : Profile)
    {types others : List ContentType} (kept : config.naming.RenamesNone types)
    (perm : types.Perm others) :
    config.naming.RenamesNone others ∧
    (∀ finding ∈ config.naming.batchFindings others, finding.kind ≠ .classNameCollision) ∧
    config.naming.generateAll others = others.map config.naming.build ∧
    (types.zip (config.naming.generateAll types)).Perm
      (others.zip (config.naming.generateAll others)) ∧
    ∀ name, (sources package profile (config.naming.generateAll others)).lookup name =
      (sources package profile (config.naming.generateAll types)).lookup name := by
  have reordered := kept.perm perm
  refine ⟨reordered, Naming.renamesNone_iff_findings.mp reordered, reordered.eq_map_build, ?_, ?_⟩
  · -- Without renaming, the class of a content type does not depend on the others.
    rw [kept.eq_map_build, reordered.eq_map_build, ← List.map_prod_left_eq_zip,
      ← List.map_prod_left_eq_zip]
    exact perm.map _
  · -- Both batches have the same classes, and no class name stands for two units.
    intro name
    have classes : (config.naming.generateAll types).Perm (config.naming.generateAll others) := by
      rw [kept.eq_map_build, reordered.eq_map_build]
      exact perm.map _
    refine (Association.lookup_perm (sources_perm classes) ?_ name).symm
    rw [sources, List.map_map]
    exact config.naming.generateAll_names_nodup types

/-- A batch is reordered in which one class hides the type of another one's field. -/
theorem batch_perm_hidden :
    let types : List ContentType := [
      ⟨"article", none, [⟨"title", "text", none⟩]⟩, ⟨"string", none, []⟩, ⟨"hero_3", none, []⟩]
    let others : List ContentType := [
      ⟨"string", none, []⟩, ⟨"hero_3", none, []⟩, ⟨"article", none, [⟨"title", "text", none⟩]⟩]
    ({} : Naming).RenamesNone types ∧ types.Perm others ∧ ({} : Naming).RenamesNone others ∧
    (({} : Naming).generateAll others).map (·.name) = ["String", "Hero3", "Article"] ∧
    (sources "a.b" {} (({} : Naming).generateAll others)).lookup "Article" =
      (sources "a.b" {} (({} : Naming).generateAll types)).lookup "Article" := by
  -- No class wants the name of another one, in whatever order they come.
  intro types others
  have kept : ({} : Naming).RenamesNone types :=
    Naming.renamesNone_iff_nodup.mpr (by decide +kernel)
  have perm : types.Perm others := by decide
  obtain ⟨reordered, -, -, -, same⟩ := batch_perm ⟨{}, {}⟩ "a.b" {} kept perm
  exact ⟨kept, perm, reordered, by decide +kernel, same "Article"⟩

end ContentClasses.Java
