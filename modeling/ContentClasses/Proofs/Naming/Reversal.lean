import ContentClasses.Proofs.Naming.Member

/-! Without acronyms, the names made of a snake-case codename show where its words begin, unless a
later word opens with a digit, so that the codename can be read off them. -/

namespace ContentClasses

/-- The text in which an underscore and the small letter stand for every capital. -/
def partedAtCapitals (text : List Char) : List Char :=
  text.flatMap fun c => if c.isUpper then ['_', c.toLower] else [c]

/-- The codename read off a member name. -/
def codenameOfMember (name : String) : String :=
  String.ofList (partedAtCapitals name.toList)

/-- The codename read off a class name, whose first capital parts nothing. -/
def codenameOfType (name : String) : String :=
  String.ofList (partedAtCapitals (name.toList.modifyHead Char.toLower))

/-- A codename is snake case and each of its words after the first starts with a letter. -/
structure Reversible (codename : String) : Prop where
  snake : isSnakeCase codename = true
  lettered : ∀ word ∈ (codenameWords codename.toList).tail, word.head?.any Char.isAlpha = true

/-- A snake-case character is no capital. -/
theorem isUpper_eq_false_of_isSnakeChar {c : Char} (snake : isSnakeChar c = true) :
    c.isUpper = false := by
  -- The characters are told apart by their numbers, where the capitals lie between the two ranges.
  rw [← Bool.not_eq_true, isUpper_iff_toNat]
  simp only [isSnakeChar, Bool.or_eq_true, Bool.and_eq_true, decide_eq_true_eq, Char.le_def,
    UInt32.le_iff_toNat_le, Char.toNat_val] at snake
  rcases snake with ⟨above, -⟩ | ⟨-, below⟩
  · have start : 'a'.toNat = 97 := rfl
    omega
  · have last : '9'.toNat = 57 := rfl
    omega

/-- A snake-case character is its own small form. -/
theorem toLower_of_isSnakeChar {c : Char} (snake : isSnakeChar c = true) : c.toLower = c :=
  Char.toLower_eq_of_not_isUpper (by simp [isUpper_eq_false_of_isSnakeChar snake])

/-- A text of snake-case characters is its own small form. -/
theorem map_toLower_of_isSnakeChar {text : List Char} (snake : ∀ c ∈ text, isSnakeChar c = true) :
    text.map Char.toLower = text := by
  have kept : text.map Char.toLower = text.map id :=
    List.map_congr_left fun c inside => toLower_of_isSnakeChar (snake c inside)
  rw [kept, List.map_id]

/-- A text of snake-case characters has no capital to be parted at. -/
theorem partedAtCapitals_of_isSnakeChar {text : List Char}
    (snake : ∀ c ∈ text, isSnakeChar c = true) : partedAtCapitals text = text := by
  -- Without a capital, each character is parted into itself.
  have kept : partedAtCapitals text = text.flatMap fun c => [c] := by
    refine List.flatMap_congr fun c inside => ?_
    rw [isUpper_eq_false_of_isSnakeChar (snake c inside)]
    rfl
  rw [kept, List.flatMap_singleton']

/-- Texts that stand behind each other are parted one by one. -/
theorem partedAtCapitals_append (front back : List Char) :
    partedAtCapitals (front ++ back) = partedAtCapitals front ++ partedAtCapitals back :=
  List.flatMap_append

namespace Naming

variable {naming : Naming} {codename : String}

/-- Without acronyms every word is cased with one capital. -/
theorem casedWord_cons (plain : naming.acronyms = .empty) (first : Char) (rest : List Char) :
    naming.casedWord (first :: rest) = first.toUpper :: rest.map Char.toLower :=
  casedWord_plain (by simp [IsAcronym, plain, WordSet.contains, WordSet.empty])

/-- A cased word is parted from what stands before it, if the word starts with a letter. -/
theorem partedAtCapitals_casedWord (plain : naming.acronyms = .empty) {word : List Char}
    (snake : IsSnakeWord word) (lettered : word.head?.any Char.isAlpha = true) :
    partedAtCapitals (naming.casedWord word) = '_' :: word := by
  -- Only the capital in front is parted, as all later characters are snake-case ones.
  cases word with
  | nil => exact absurd rfl snake.1
  | cons first rest =>
    have later : ∀ c ∈ rest, isSnakeChar c = true := fun c inside => snake.2 c (.tail _ inside)
    have opening := snake.2 first (.head _)
    have capital : first.toUpper.isUpper = true := by simpa using lettered
    have front : partedAtCapitals [first.toUpper] = ['_', first] := by
      simp [partedAtCapitals, capital, toLower_of_isSnakeChar opening]
    rw [casedWord_cons plain, map_toLower_of_isSnakeChar later, ← List.singleton_append,
      partedAtCapitals_append, front, partedAtCapitals_of_isSnakeChar later]
    rfl

/-- Cased words are parted from each other. -/
theorem partedAtCapitals_flatMap_casedWord (plain : naming.acronyms = .empty)
    {words : List (List Char)}
    (each : ∀ word ∈ words, IsSnakeWord word ∧ word.head?.any Char.isAlpha = true) :
    partedAtCapitals (words.flatMap naming.casedWord) = words.flatMap ('_' :: ·) := by
  -- The front of each word ends the word before it.
  induction words with
  | nil => rfl
  | cons first rest ih =>
    obtain ⟨snake, lettered⟩ := each first (.head _)
    rw [List.flatMap_cons, partedAtCapitals_append, partedAtCapitals_casedWord plain snake lettered,
      ih fun word among => each word (.tail _ among)]
    rfl

/-- Without acronyms a class name is the member name but for the capital in front. -/
theorem modifyHead_typeName (plain : naming.acronyms = .empty) (codename : String) :
    (naming.typeName codename).toList.modifyHead Char.toLower =
      (naming.memberName codename).toList := by
  -- Both names begin with the same word, once with its capital and once without.
  cases words : codenameWords codename.toList with
  | nil => simp [typeName, toList_memberName_nil words, words]
  | cons first rest =>
    obtain ⟨c, later, rfl⟩ := exists_of_codenameWords_eq_cons words
    rw [toList_memberName words, typeName, String.toList_ofList, words, List.flatMap_cons,
      casedWord_cons plain]
    simp

/-- Parted at its capitals, a member name is the codename. -/
theorem codenameOfMember_memberName (plain : naming.acronyms = .empty)
    (reversible : Reversible codename) :
    codenameOfMember (naming.memberName codename) = codename := by
  -- The words of the codename, joined again, are the codename.
  have joined := intercalate_codenameWords reversible.snake
  have snake {word : List Char} (among : word ∈ codenameWords codename.toList) :=
    isSnakeWord_of_mem reversible.snake among
  have lettered := reversible.lettered
  cases words : codenameWords codename.toList with
  | nil => exact absurd words (codenameWords_ne_nil reversible.snake)
  | cons first rest =>
    rw [words] at joined snake lettered
    -- The first word stays small as a whole, and a capital opens each of the others.
    have opening := (snake (.head _)).2
    have others : partedAtCapitals (rest.flatMap naming.casedWord) = rest.flatMap ('_' :: ·) :=
      partedAtCapitals_flatMap_casedWord plain fun word among =>
        ⟨snake (.tail _ among), lettered word among⟩
    rw [codenameOfMember, toList_memberName words, map_toLower_of_isSnakeChar opening,
      partedAtCapitals_append, partedAtCapitals_of_isSnakeChar opening, others, ← intercalate_cons,
      joined, String.ofList_toList]

/-- Parted at its capitals but the first, a class name is the codename. -/
theorem codenameOfType_typeName (plain : naming.acronyms = .empty)
    (reversible : Reversible codename) :
    codenameOfType (naming.typeName codename) = codename := by
  rw [codenameOfType, modifyHead_typeName plain]
  exact codenameOfMember_memberName plain reversible

variable {left right : String}

/-- Codenames with one member name are one. -/
theorem eq_of_memberName (plain : naming.acronyms = .empty) (reversibleLeft : Reversible left)
    (reversibleRight : Reversible right)
    (same : naming.memberName left = naming.memberName right) : left = right := by
  rw [← codenameOfMember_memberName plain reversibleLeft, same,
    codenameOfMember_memberName plain reversibleRight]

/-- Codenames with one class name are one. -/
theorem eq_of_typeName (plain : naming.acronyms = .empty) (reversibleLeft : Reversible left)
    (reversibleRight : Reversible right)
    (same : naming.typeName left = naming.typeName right) : left = right := by
  rw [← codenameOfType_typeName plain reversibleLeft, same,
    codenameOfType_typeName plain reversibleRight]

end Naming

end ContentClasses
