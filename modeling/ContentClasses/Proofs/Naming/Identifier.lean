import ContentClasses.Naming.Identifier
import ContentClasses.Proofs.Naming.Codename
import ContentClasses.Proofs.Naming.FreeName
import ContentClasses.Proofs.Text.Pieces
import Mathlib

/-! The identifiers made of snake-case codenames are ASCII letters and digits. -/

namespace ContentClasses

/-- A name is made of ASCII letters and digits, at least one of them. -/
def IsAlphanumeric (name : String) : Prop :=
  name ≠ "" ∧ ∀ c ∈ name.toList, c.isAlphanum = true

/-- A character of a snake-case word is an ASCII letter or digit. -/
theorem isAlphanum_of_isSnakeChar {c : Char} (snake : isSnakeChar c = true) :
    c.isAlphanum = true := by
  -- Snake case leaves out the capitals, which are the first part of the letters.
  simp only [isSnakeChar, Bool.or_eq_true, Bool.and_eq_true, decide_eq_true_eq] at snake
  simp only [Char.isAlphanum, Char.isAlpha, Char.isLower, Char.isDigit, Bool.or_eq_true,
    Bool.and_eq_true, decide_eq_true_eq]
  rcases snake with letter | digit
  · exact .inl (.inr letter)
  · exact .inr digit

/-- Capitals keep ASCII letters and digits what they are. -/
theorem isAlphanum_toUpper {c : Char} (given : c.isAlphanum = true) :
    c.toUpper.isAlphanum = true := by
  -- A capital is a letter exactly if the character is one, and no digit has another capital.
  by_cases lower : c.isLower = true
  · simp [Char.isAlphanum, Char.isAlpha, lower]
  · rwa [Char.toUpper_eq_of_not_isLower lower]

/-- Small letters keep ASCII letters and digits what they are. -/
theorem isAlphanum_toLower {c : Char} (given : c.isAlphanum = true) :
    c.toLower.isAlphanum = true := by
  by_cases upper : c.isUpper = true
  · simp [Char.isAlphanum, Char.isAlpha, upper]
  · rwa [Char.toLower_eq_of_not_isUpper upper]

/-- A capital that is no letter or digit is the character itself. -/
theorem eq_of_toUpper_not_isAlphanum {c : Char} (other : c.toUpper.isAlphanum = false) :
    c.toUpper = c := by
  refine Char.toUpper_eq_of_not_isLower fun lower => ?_
  have letter : c.isAlphanum = true := by simp [Char.isAlphanum, Char.isAlpha, lower]
  simp [isAlphanum_toUpper letter] at other

/-- A small form that is no letter or digit is the character itself. -/
theorem eq_of_toLower_not_isAlphanum {c : Char} (other : c.toLower.isAlphanum = false) :
    c.toLower = c := by
  refine Char.toLower_eq_of_not_isUpper fun upper => ?_
  have letter : c.isAlphanum = true := by simp [Char.isAlphanum, Char.isAlpha, upper]
  simp [isAlphanum_toLower letter] at other

namespace Naming

/-- Whether a word is an acronym, in whatever case it is written. -/
def IsAcronym (naming : Naming) (word : List Char) : Prop :=
  naming.acronyms.contains (String.ofList (word.map Char.toUpper)) = true

instance (naming : Naming) (word : List Char) : Decidable (naming.IsAcronym word) :=
  inferInstanceAs (Decidable (_ = true))

/-- An acronym is cased in capitals as a whole. -/
theorem casedWord_acronym {naming : Naming} {word : List Char}
    (acronym : naming.IsAcronym word) : naming.casedWord word = word.map Char.toUpper := by
  rw [IsAcronym] at acronym
  cases word <;> simp_all [casedWord]

/-- Any other word is cased with one capital. -/
theorem casedWord_plain {naming : Naming} {first : Char} {rest : List Char}
    (plain : ¬ naming.IsAcronym (first :: rest)) :
    naming.casedWord (first :: rest) = first.toUpper :: rest.map Char.toLower := by
  rw [IsAcronym] at plain
  simp_all [casedWord]

/-- The empty word has only one cased form. -/
@[simp] theorem casedWord_nil (naming : Naming) : naming.casedWord [] = [] := by
  simp [casedWord]

/-- A cased word is as long as the word. -/
@[simp] theorem length_casedWord (naming : Naming) (word : List Char) :
    (naming.casedWord word).length = word.length := by
  -- Raising and lowering letters changes none of the lengths.
  by_cases acronym : naming.IsAcronym word
  · simp [casedWord_acronym acronym]
  · cases word with
    | nil => simp
    | cons first rest => simp [casedWord_plain acronym]

/-- A character of a cased word is the capital or the small form of one in the word. -/
theorem mem_casedWord {naming : Naming} {word : List Char} {c : Char}
    (member : c ∈ naming.casedWord word) :
    ∃ original ∈ word, c = original.toUpper ∨ c = original.toLower := by
  -- An acronym has capitals only, and another word at its front.
  by_cases acronym : naming.IsAcronym word
  · rw [casedWord_acronym acronym] at member
    obtain ⟨original, inside, rfl⟩ := List.mem_map.mp member
    exact ⟨original, inside, .inl rfl⟩
  · cases word with
    | nil => simp at member
    | cons first rest =>
      rw [casedWord_plain acronym] at member
      rcases List.mem_cons.mp member with rfl | member
      · exact ⟨first, by simp, .inl rfl⟩
      · obtain ⟨original, inside, rfl⟩ := List.mem_map.mp member
        exact ⟨original, by simp [inside], .inr rfl⟩

/-- Casing keeps ASCII letters and digits what they are. -/
theorem casedWord_isAlphanum (naming : Naming) {word : List Char}
    (given : ∀ c ∈ word, c.isAlphanum = true) :
    ∀ c ∈ naming.casedWord word, c.isAlphanum = true := by
  -- The capital of a letter and its small form are letters too, and digits stay.
  intro c member
  obtain ⟨original, inside, rfl | rfl⟩ := mem_casedWord member
  · exact isAlphanum_toUpper (given original inside)
  · exact isAlphanum_toLower (given original inside)

/-- A class name has no mark other than those of its codename. -/
theorem not_mem_typeName (naming : Naming) {codename : String} {mark : Char}
    (other : mark.isAlphanum = false) (absent : mark ∉ codename.toList) :
    mark ∉ (naming.typeName codename).toList := by
  -- Both forms of a character are the character itself unless they are letters.
  intro member
  simp only [typeName, String.toList_ofList, List.mem_flatMap] at member
  obtain ⟨word, among, member⟩ := member
  obtain ⟨original, inside, form⟩ := mem_casedWord member
  have given := (mem_pieces among).2 original inside
  have changed : mark = original := by
    rcases form with rfl | rfl
    · exact eq_of_toUpper_not_isAlphanum other
    · exact eq_of_toLower_not_isAlphanum other
  exact absent (changed ▸ given.1)

/-- The class name for a snake-case codename is made of ASCII letters and digits. -/
theorem typeName_isAlphanumeric (naming : Naming) {codename : String}
    (snake : isSnakeCase codename = true) : IsAlphanumeric (naming.typeName codename) := by
  refine ⟨fun empty => ?_, fun c member => ?_⟩
  · -- The first word is not empty, so its cased form is not empty either.
    cases words : codenameWords codename.toList with
    | nil => exact codenameWords_ne_nil snake words
    | cons first rest =>
      have word : IsSnakeWord first := isSnakeWord_of_mem snake (by simp [words])
      have letters := congrArg String.toList empty
      have positive := List.length_pos_of_ne_nil word.1
      rw [← naming.length_casedWord first] at positive
      simp [typeName, words] at letters
      simp [letters.1] at positive
  · -- The characters come from the words, which are snake case.
    simp only [typeName, String.toList_ofList, List.mem_flatMap] at member
    obtain ⟨word, inside, member⟩ := member
    have given := (isSnakeWord_of_mem snake inside).2
    exact naming.casedWord_isAlphanum (fun d part => isAlphanum_of_isSnakeChar (given d part)) c
      member

end Naming

/-- A numbered variant of an alphanumeric name is alphanumeric. -/
theorem IsAlphanumeric.numbered {name : String} (given : IsAlphanumeric name) (suffix : Nat) :
    IsAlphanumeric (numbered name suffix) := by
  -- The numeral adds digits behind the name, and at least one of them.
  refine ⟨fun empty => ?_, fun c member => ?_⟩
  · have parts := congrArg String.toList empty
    simp only [toList_numbered, String.toList_empty, List.append_eq_nil_iff] at parts
    exact Nat.toDigits_ne_nil parts.2
  · rw [toList_numbered, List.mem_append] at member
    rcases member with member | member
    · exact given.2 c member
    · have digit := Nat.isDigit_of_mem_toDigits (by decide) (by decide) member
      simp [Char.isAlphanum, digit]

/-- The first free variant of an alphanumeric name is alphanumeric. -/
theorem IsAlphanumeric.firstFree {name : String} (given : IsAlphanumeric name)
    (taken : List String) : IsAlphanumeric (firstFree name taken) :=
  firstFree_of_variants given given.numbered taken

/-- The first free variant of a name has no mark other than those of the name. -/
theorem not_mem_firstFree {name : String} {mark : Char} (other : mark.isAlphanum = false)
    (absent : mark ∉ name.toList) (taken : List String) :
    mark ∉ (firstFree name taken).toList := by
  refine firstFree_of_variants (motive := fun variant => mark ∉ variant.toList) absent
    (fun suffix => ?_) taken
  -- A variant adds digits only.
  rw [toList_numbered, List.mem_append, not_or]
  refine ⟨absent, fun member => ?_⟩
  have digit := Nat.isDigit_of_mem_toDigits (by decide) (by decide) member
  simp [Char.isAlphanum, digit] at other

end ContentClasses
