import ContentClasses.Proofs.Naming.Member
import Mathlib.Data.List.Forall2

/-! A name has the characters of its codename in order, but for the underscores, and each of them in
one of its two cases. -/

namespace ContentClasses

/-- A text has the characters of another one in order, each as its capital or its small form. -/
def Recased (text original : List Char) : Prop :=
  List.Forall₂ (fun c other => c = other.toUpper ∨ c = other.toLower) text original

namespace Recased

/-- A text in capitals is recased. -/
theorem map_toUpper (text : List Char) : Recased (text.map Char.toUpper) text :=
  List.forall₂_map_left_iff.mpr (List.forall₂_same.mpr fun _ _ => .inl rfl)

/-- A text in small letters is recased. -/
theorem map_toLower (text : List Char) : Recased (text.map Char.toLower) text :=
  List.forall₂_map_left_iff.mpr (List.forall₂_same.mpr fun _ _ => .inr rfl)

variable {text original : List Char}

/-- Recased texts can be put together. -/
theorem append {back last : List Char} (front : Recased text original)
    (behind : Recased back last) : Recased (text ++ back) (original ++ last) :=
  List.rel_append front behind

/-- In small letters a recased text is the other one. -/
theorem toLower_eq (recased : Recased text original) :
    text.map Char.toLower = original.map Char.toLower := by
  -- The small form of a capital is that of the character itself.
  induction recased with
  | nil => rfl
  | cons cased _ ih =>
    rcases cased with rfl | rfl <;> simp [ih]

end Recased

/-- A text without its underscores. -/
def withoutUnderscores (text : String) : String :=
  String.ofList (text.toList.filter (· ≠ '_'))

/-- A name keeps the letters of a codename. -/
structure KeepsLetters (name codename : String) : Prop where
  /-- In small letters the name is the codename in small letters without its underscores. -/
  toLower_eq : name.toLower = withoutUnderscores codename.toLower
  /-- No character is lost, added or moved, and none is changed but in its case. -/
  recased : Recased name.toList (withoutUnderscores codename).toList
  /-- The name has no underscore. -/
  joined : '_' ∉ name.toList

/-- Only an underscore has an underscore as its small form. -/
theorem toLower_eq_underscore_iff {c : Char} : c.toLower = '_' ↔ c = '_' := by
  -- No letter becomes an underscore, and it is its own small form.
  constructor
  · intro small
    exact (eq_of_toLower_not_isAlphanum (by rw [small]; decide)).symm.trans small
  · rintro rfl
    decide

/-- Underscores can be dropped before or after a text is put in small letters. -/
theorem withoutUnderscores_toLower (text : String) :
    withoutUnderscores text.toLower = (withoutUnderscores text).toLower := by
  rw [← String.toList_inj]
  simp [withoutUnderscores, String.toLower, List.filter_map, Function.comp_def,
    toLower_eq_underscore_iff]

/-- A name that is recased from the rest of a codename keeps its letters. -/
theorem Recased.keepsLetters {name codename : String}
    (recased : Recased name.toList (withoutUnderscores codename).toList) :
    KeepsLetters name codename := by
  have small : name.toLower = (withoutUnderscores codename).toLower := by
    rw [← String.toList_inj]
    simpa [String.toLower] using recased.toLower_eq
  refine ⟨by rw [small, withoutUnderscores_toLower], recased, fun member => ?_⟩
  -- In small letters the name would have an underscore, too.
  have marked : '_' ∈ name.toLower.toList := by
    rw [String.toLower, String.toList_map]
    exact List.mem_map.mpr ⟨'_', member, by decide⟩
  rw [small, ← withoutUnderscores_toLower, withoutUnderscores] at marked
  simp at marked

namespace Naming

variable (naming : Naming)

/-- A cased word is recased. -/
theorem recased_casedWord (word : List Char) : Recased (naming.casedWord word) word := by
  -- An acronym is raised as a whole, and another word at its front only.
  by_cases acronym : naming.IsAcronym word
  · rw [casedWord_acronym acronym]
    exact .map_toUpper word
  · cases word with
    | nil => simp [Recased]
    | cons first rest =>
      rw [casedWord_plain acronym]
      exact List.Forall₂.cons (.inl rfl) (Recased.map_toLower rest)

/-- Cased words are together recased. -/
theorem recased_flatMap_casedWord (words : List (List Char)) :
    Recased (words.flatMap naming.casedWord) words.flatten := by
  induction words with
  | nil => exact .nil
  | cons first rest ih => exact (naming.recased_casedWord first).append ih

/-- The words of a codename are together the codename without its underscores. -/
theorem flatten_codenameWords (codename : String) :
    (codenameWords codename.toList).flatten = (withoutUnderscores codename).toList := by
  rw [withoutUnderscores, String.toList_ofList]
  exact flatten_pieces codename.toList

/-- A class name is recased from the codename without its underscores. -/
theorem recased_typeName (codename : String) :
    Recased (naming.typeName codename).toList (withoutUnderscores codename).toList := by
  rw [typeName, String.toList_ofList, ← flatten_codenameWords]
  exact naming.recased_flatMap_casedWord _

/-- A member name is recased from the codename without its underscores. -/
theorem recased_memberName (codename : String) :
    Recased (naming.memberName codename).toList (withoutUnderscores codename).toList := by
  -- A name without words is empty, and so is the codename without underscores.
  rw [← flatten_codenameWords]
  cases words : codenameWords codename.toList with
  | nil =>
    rw [toList_memberName_nil words]
    exact List.Forall₂.nil
  | cons first rest =>
    rw [toList_memberName words]
    exact (Recased.map_toLower first).append (naming.recased_flatMap_casedWord rest)

end Naming

/-- Names of either kind keep the letters of every codename whatever the acronyms, which change
names in the case of letters only. -/
theorem names_keep_letters (naming : Naming) (codename : String) :
    KeepsLetters (naming.memberName codename) codename ∧
      KeepsLetters (naming.typeName codename) codename ∧
      ∀ other : Naming,
        (other.memberName codename).toLower = (naming.memberName codename).toLower ∧
          (other.typeName codename).toLower = (naming.typeName codename).toLower := by
  -- Both names are recased from the same letters, whatever the acronyms are.
  have member (naming : Naming) := (naming.recased_memberName codename).keepsLetters
  have type (naming : Naming) := (naming.recased_typeName codename).keepsLetters
  -- So any two sets of acronyms give the same small letters.
  refine ⟨member naming, type naming, fun other => ⟨?_, ?_⟩⟩
  · exact (member other).toLower_eq.trans (member naming).toLower_eq.symm
  · exact (type other).toLower_eq.trans (type naming).toLower_eq.symm

end ContentClasses
