import ContentClasses.Proofs.Naming.FreeName
import Mathlib.Data.List.Basic

/-! Who holds a wanted name: the first that wants it, unless an earlier one was given it as a
numbered variant of another name. -/

namespace ContentClasses

variable {taken wanted : List String}

/-- A name is given as it is exactly if it is not taken. -/
theorem firstFree_eq_self_iff {name : String} : firstFree name taken = name ↔ name ∉ taken := by
  constructor
  · -- Whatever the search answers is free.
    intro kept occupied
    exact firstFree_not_mem name taken (kept.symm ▸ occupied)
  · exact (firstFree_isFirstFree name taken).1

/-- A name that is not given as it is, is given as a numbered variant from two on. -/
theorem firstFree_eq_numbered {name : String} (changed : firstFree name taken ≠ name) :
    ∃ suffix, 2 ≤ suffix ∧ firstFree name taken = numbered name suffix := by
  -- Only a taken name makes the search look at variants.
  have occupied : name ∈ taken :=
    Decidable.byContradiction fun free => changed (firstFree_eq_self_iff.mpr free)
  obtain ⟨suffix, lower, same, -, -⟩ := (firstFree_isFirstFree name taken).2 occupied
  exact ⟨suffix, lower, same⟩

/-- All names are given as they are wanted exactly if they differ from each other and from the taken
ones. -/
theorem givenNames_eq_self_iff :
    givenNames taken wanted = wanted ↔ wanted.Nodup ∧ ∀ name ∈ wanted, name ∉ taken := by
  -- A name that is given as it is wanted is one of the taken ones for all others.
  induction wanted generalizing taken with
  | nil => simp [givenNames]
  | cons first rest ih =>
    rw [givenNames, List.cons.injEq, firstFree_eq_self_iff]
    constructor
    · -- The first name is taken for the others, so none of them repeats it.
      rintro ⟨free, others⟩
      rw [firstFree_eq_self_iff.mpr free] at others
      obtain ⟨distinct, apart⟩ := ih.mp others
      refine ⟨List.nodup_cons.mpr ⟨fun again => ?_, distinct⟩, fun name member => ?_⟩
      · exact apart first again (by simp)
      · rcases List.mem_cons.mp member with rfl | member
        · exact free
        · exact fun occupied => apart name member (by simp [occupied])
    · -- What is taken for the others is what was taken before, and the first name.
      rintro ⟨distinct, apart⟩
      obtain ⟨alone, distinct⟩ := List.nodup_cons.mp distinct
      have free : first ∉ taken := apart first List.mem_cons_self
      refine ⟨free, ?_⟩
      rw [firstFree_eq_self_iff.mpr free]
      refine ih.mpr ⟨distinct, fun name member occupied => ?_⟩
      rcases List.mem_append.mp occupied with before | last
      · exact apart name (List.mem_cons_of_mem first member) before
      · exact alone (List.mem_singleton.mp last ▸ member)

/-- The first that wants a name is given it. -/
def EveryFirstHolds (wanted given : List String) : Prop :=
  ∀ position name, wanted[position]? = some name → name ∉ wanted.take position →
    given[position]? = some name

/-- A name was given before a position to one that wanted another name, as a numbered variant. -/
def GivenAsVariant (wanted given : List String) (position : Nat) (name : String) : Prop :=
  ∃ earlier < position, ∃ base suffix, wanted[earlier]? = some base ∧ 2 ≤ suffix ∧
    name = numbered base suffix ∧ given[earlier]? = some name

/-- Names are given in order, so that only numbered variants given before keep the first that wants
a name from being given it. -/
structure FirstHolders (wanted given : List String) : Prop where
  /-- Every wanted name is given one name. -/
  length_eq : given.length = wanted.length
  /-- The first that wants a name is given it, unless it was given before as a variant. -/
  holds_iff : ∀ position name, wanted[position]? = some name → name ∉ wanted.take position →
    (given[position]? = some name ↔ ¬ GivenAsVariant wanted given position name)

/-- What stands before a position is among the first items up to there. -/
theorem mem_take_of_getElem? {items : List String} {earlier position : Nat} {name : String}
    (below : earlier < position) (placed : items[earlier]? = some name) :
    name ∈ items.take position :=
  -- The front part has the same item at the earlier position.
  List.mem_of_getElem? ((List.getElem?_take_of_lt below).trans placed)

/-- The name at a position is given as it is exactly if it was not given before. -/
theorem getElem?_givenNames_eq_iff {position : Nat} {name : String}
    (wants : wanted[position]? = some name) :
    (givenNames [] wanted)[position]? = some name ↔
      name ∉ (givenNames [] wanted).take position := by
  rw [getElem?_givenNames, wants, Option.map_some, Option.some.injEq, List.nil_append,
    firstFree_eq_self_iff]

/-- Names given one after the other leave every name to the first that wants it, but for variants
given before. -/
theorem givenNames_firstHolders (wanted : List String) :
    FirstHolders wanted (givenNames [] wanted) := by
  refine ⟨length_givenNames [] wanted, fun position name wants first => ?_⟩
  rw [getElem?_givenNames_eq_iff wants, not_iff_not]
  constructor
  · intro before
    obtain ⟨earlier, found⟩ := List.getElem?_of_mem before
    rw [List.getElem?_take, Option.ite_none_right_eq_some] at found
    obtain ⟨below, given⟩ := found
    -- What stands there is what the search answered for the name wanted there.
    have searched := given
    rw [getElem?_givenNames] at searched
    obtain ⟨base, wanting, answer⟩ := Option.map_eq_some_iff.mp searched
    -- That was another name, because no earlier one wanted this one.
    have other : name ≠ base := by
      rintro rfl
      exact first (mem_take_of_getElem? below wanting)
    rw [← answer] at other
    obtain ⟨suffix, lower, variant⟩ := firstFree_eq_numbered other
    exact ⟨earlier, below, base, suffix, wanting, lower, answer.symm.trans variant, given⟩
  · rintro ⟨earlier, below, base, suffix, -, -, -, given⟩
    exact mem_take_of_getElem? below given

end ContentClasses
