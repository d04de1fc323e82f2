import ContentClasses.Proofs.Model.Report
import ContentClasses.Proofs.Naming.Holders

/-! Fields and classes have the names of their codenames where they are the first to want them,
unless an earlier one was renamed to such a name. -/

namespace ContentClasses

/-- The names of fields and classes are held by the first that want them: each supported element of
a content type by its member name and each content type of a batch by its class name, but for
variants that were given before. -/
theorem names_firstHolders (config : CodegenConfig) :
    (∀ type : ContentType,
      (config.naming.build type).fields.map (fun field => (field.source, field.type)) =
        (typedElements type.elements).map (fun (element, type) => (element.codename, type)) ∧
      FirstHolders (config.naming.wantedMembers type.elements)
        ((config.naming.build type).fields.map (·.name))) ∧
    ∀ types : List ContentType,
      FirstHolders (config.naming.wantedClasses types)
        ((config.naming.generateAll types).map (·.name)) := by
  refine ⟨fun type => ⟨(config.naming.build_membersFrom type).sources, ?_⟩, fun types => ?_⟩
  · -- A class has no fields before those of its own elements.
    rw [Naming.build_fields, Naming.newFields_names]
    exact givenNames_firstHolders _
  · rw [Naming.generateAll_names_eq]
    exact givenNames_firstHolders _

/-- An element, and a content type, that is the first to want a name is renamed, because the one
before it was given that name as a variant. -/
theorem names_lose_firstHolder :
    let naming : Naming := {}
    let type : ContentType := ⟨"article", none,
      [⟨"image_1", "asset", none⟩, ⟨"image1", "text", none⟩, ⟨"image_12", "text", none⟩]⟩
    let types : List ContentType :=
      [⟨"hero_3", none, []⟩, ⟨"hero3", none, []⟩, ⟨"hero_32", none, []⟩]
    naming.wantedMembers type.elements = ["image1", "image1", "image12"] ∧
    (naming.build type).fields.map (·.name) = ["image1", "image12", "image122"] ∧
    naming.wantedClasses types = ["Hero3", "Hero3", "Hero32"] ∧
    (naming.generateAll types).map (·.name) = ["Hero3", "Hero32", "Hero322"] ∧
    ¬ EveryFirstHolds (naming.wantedMembers type.elements)
      ((naming.build type).fields.map (·.name)) ∧
    ¬ EveryFirstHolds (naming.wantedClasses types)
      ((naming.generateAll types).map (·.name)) := by
  intro naming type types
  -- The second name is taken by the variant of the first one, in fields as in classes.
  have members : naming.wantedMembers type.elements = ["image1", "image1", "image12"] := by
    decide +kernel
  have fields : (naming.build type).fields.map (·.name) = ["image1", "image12", "image122"] := by
    decide +kernel
  have wanted : naming.wantedClasses types = ["Hero3", "Hero3", "Hero32"] := by
    decide +kernel
  have classes : (naming.generateAll types).map (·.name) = ["Hero3", "Hero32", "Hero322"] := by
    decide +kernel
  refine ⟨members, fields, wanted, classes, fun holds => ?_, fun holds => ?_⟩
  · -- The third one is the first to want its name, and it stands under another.
    rw [members, fields] at holds
    exact absurd (holds 2 "image12" rfl (by decide)) (by decide)
  · rw [wanted, classes] at holds
    exact absurd (holds 2 "Hero32" rfl (by decide)) (by decide)

end ContentClasses
