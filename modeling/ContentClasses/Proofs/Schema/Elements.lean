import ContentClasses.Association
import ContentClasses.Proofs.Schema.Forms

/-! Elements that are added to a content type one after the other stand in it as in a map that keeps
the order in which its keys were first put and the last value for each. -/

namespace ContentClasses

/-- The element without a display name for a codename and a tag. -/
def Element.ofEntry (entry : String × String) : Element :=
  { codename := entry.1, tag := entry.2 }

namespace ContentType

/-- Adds elements one after the other, each given by its codename and its tag. -/
def withElements (type : ContentType) (added : List (String × String)) : ContentType :=
  added.foldl (fun type (codename, tag) => type.withElement codename tag) type

end ContentType

/-- An element replaces another one or comes last as a value under its codename does in a map. -/
theorem replaceOrAppend_ofEntry (entry : String × String) (entries : List (String × String)) :
    replaceOrAppend (.ofEntry entry) (entries.map Element.ofEntry) =
      (Association.put entry.1 entry.2 entries).map Element.ofEntry := by
  -- The elements and the entries are gone through together, up to the one that is replaced.
  induction entries with
  | nil => rfl
  | cons head rest ih =>
    rcases head with ⟨other, old⟩
    by_cases same : other = entry.1
    · simp [replaceOrAppend, Association.put, Element.ofEntry, same]
    · have other : ¬(Element.ofEntry (other, old)).codename = (Element.ofEntry entry).codename :=
        same
      rw [List.map_cons, replaceOrAppend, if_neg other, ih, Association.put,
        if_neg (by simpa using same), List.map_cons]

/-- The first element with a codename is made from the first entry under it. -/
theorem find?_ofEntry (entries : List (String × String)) (codename : String) :
    (entries.map Element.ofEntry).find? (·.codename = codename) =
      (entries.lookup codename).map fun tag => { codename, tag } := by
  -- The first element with the codename stands where the first entry under it does.
  induction entries with
  | nil => rfl
  | cons head rest ih =>
    rcases head with ⟨other, tag⟩
    by_cases same : codename = other
    · subst same
      simp [Element.ofEntry]
    · rw [List.map_cons, List.lookup_cons, beq_false_of_ne same, List.find?_cons_of_neg, ih]
      exact fun found => same (of_decide_eq_true found).symm

namespace ContentType

/-- One addition puts a tag under a codename. -/
theorem withElement_ofEntry (type : ContentType) (entry : String × String)
    {entries : List (String × String)} (made : type.elements = entries.map Element.ofEntry) :
    (type.withElement entry.1 entry.2).elements =
      (Association.put entry.1 entry.2 entries).map Element.ofEntry := by
  rw [withElement, made]
  exact replaceOrAppend_ofEntry entry entries

/-- Additions one after the other put their tags under their codenames. -/
theorem withElements_ofEntry (added : List (String × String)) (type : ContentType)
    {entries : List (String × String)} (made : type.elements = entries.map Element.ofEntry) :
    type.withElements added = { type with
      elements := (Association.putAll added entries).map Element.ofEntry } := by
  -- Each addition changes the elements only, and in the same way as the map.
  induction added generalizing type entries with
  | nil => rw [Association.putAll, List.foldl_nil, ← made]; rfl
  | cons entry added ih =>
    exact ih (type.withElement entry.1 entry.2) (type.withElement_ofEntry entry made)

/-- The elements of a content type are those of a map that keeps the order of insertion, after the
given entries were put there one after the other. -/
structure InsertionOrdered (type : ContentType) (added : List (String × String)) : Prop where
  /-- No two elements share a codename. -/
  distinct : DistinctCodenames type.elements
  /-- Codenames stand in the order in which they were first added. -/
  order : type.elements.map (·.codename) = (added.map (·.1)).eraseDups
  /-- Under a codename stands the element with the tag that was added last for it. -/
  last : ∀ codename, type.element? codename =
    (added.reverse.lookup codename).map fun tag => { codename, tag }
  /-- There is no element for codenames that were never added, and for those only. -/
  none_iff : ∀ codename, type.element? codename = none ↔ codename ∉ added.map (·.1)
  /-- The elements are made from the entries of the map. -/
  entries : type.elements = (Association.lastOfEach added).map Element.ofEntry

/-- A content type that is made from the entries of such a map holds its elements as the map does.
-/
theorem insertionOrdered_of_entries {type : ContentType} {added : List (String × String)}
    (made : type.elements = (Association.lastOfEach added).map Element.ofEntry) :
    type.InsertionOrdered added := by
  -- The map is made by putting one entry after the other.
  have put : Association.lastOfEach added = Association.putAll added [] := rfl
  have keys : type.elements.map (·.codename) = (Association.lastOfEach added).map (·.1) := by
    rw [made, List.map_map]
    rfl
  have last (codename : String) : type.element? codename =
      (added.reverse.lookup codename).map fun tag => { codename, tag } := by
    rw [element?, made, find?_ofEntry, put, Association.lookup_putAll, List.lookup_nil,
      Option.or_none]
  refine ⟨?_, ?_, last, fun codename => ?_, made⟩
  · rw [DistinctCodenames, keys, put]
    exact Association.nodup_putAll added List.nodup_nil
  · -- No key was there before the first one was put.
    rw [keys, put, Association.map_fst_putAll]
    simp [List.removeAll]
  · -- A codename is missing if no entry was added under it.
    rw [last, Option.map_eq_none_iff, List.lookup_eq_none_iff, List.mem_map]
    constructor
    · rintro absent ⟨entry, among, rfl⟩
      simpa using absent entry (List.mem_reverse.mpr among)
    · intro absent entry among
      exact bne_iff_ne.mpr fun same => absent ⟨entry, List.mem_reverse.mp among, same.symm⟩

end ContentType

/-- A fresh content type to which elements are added holds them in the order in which their
codenames were first added, each with the tag that was added last, and nothing else of it changes.
-/
theorem withElements_insertion_ordered (codename : String) (added : List (String × String)) :
    ∃ elements : List Element,
      ContentType.withElements ⟨codename, none, []⟩ added = ⟨codename, none, elements⟩ ∧
        ContentType.InsertionOrdered ⟨codename, none, elements⟩ added := by
  -- A fresh content type has no elements, as the map has no entries.
  have fresh : (ContentType.mk codename none []).elements =
      ([] : List (String × String)).map Element.ofEntry := rfl
  exact ⟨_, ContentType.withElements_ofEntry added _ fresh,
    ContentType.insertionOrdered_of_entries rfl⟩

/-- An element that is added again keeps its place and has the new tag. -/
example :
    (ContentType.withElements ⟨"article", none, []⟩
      [("title", "text"), ("body", "rich_text"), ("title", "url_slug")]).elements =
        [⟨"title", "url_slug", none⟩, ⟨"body", "rich_text", none⟩] := by
  decide

end ContentClasses
