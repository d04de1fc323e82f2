/-! Finite sets of words, listed in increasing order so that equal sets are equal values. -/

namespace ContentClasses

/-- A set of words, kept as its members in increasing order. -/
structure WordSet where
  words : List String
  increasing : words.Pairwise (· < ·)
  deriving DecidableEq

namespace WordSet

/-- Puts a word in its place in an increasing list, unless it is there already. -/
def insertWord (word : String) : List String → List String
  | [] => [word]
  | first :: rest =>
    if word < first then word :: first :: rest
    else if first < word then first :: insertWord word rest
    else first :: rest

/-- Inserting adds exactly the given word to the members. -/
theorem mem_insertWord {word other : String} {words : List String} :
    other ∈ insertWord word words ↔ other = word ∨ other ∈ words := by
  -- Only the case of equal words drops anything, and it drops a repetition.
  induction words with
  | nil => simp [insertWord]
  | cons first rest ih =>
    simp only [insertWord]
    split
    · simp
    · split
      · simp [ih, or_left_comm]
      · rename_i notBefore notAfter
        have same : word = first :=
          String.le_antisymm (String.not_lt.mp notAfter) (String.not_lt.mp notBefore)
        simp [same]

/-- Inserting keeps a list increasing. -/
theorem insertWord_increasing {word : String} {words : List String}
    (increasing : words.Pairwise (· < ·)) : (insertWord word words).Pairwise (· < ·) := by
  -- A word placed before a larger first member is smaller than all that follow it.
  induction words with
  | nil => simp [insertWord]
  | cons first rest ih =>
    simp only [insertWord]
    have ⟨before, sorted⟩ := List.pairwise_cons.mp increasing
    split
    · rename_i smaller
      refine List.pairwise_cons.mpr ⟨fun other member => ?_, increasing⟩
      -- A word that comes first is smaller than all others.
      rcases List.mem_cons.mp member with rfl | member
      · exact smaller
      · exact String.lt_trans smaller (before other member)
    · split
      · rename_i larger
        refine List.pairwise_cons.mpr ⟨fun other member => ?_, ih sorted⟩
        -- Behind a smaller first member the rest stays in order.
        rcases mem_insertWord.mp member with rfl | member
        · exact larger
        · exact before other member
      · exact increasing

/-- The set without members. -/
def empty : WordSet := ⟨[], .nil⟩

instance : Inhabited WordSet := ⟨empty⟩

/-- The set with one more member. -/
def insert (set : WordSet) (word : String) : WordSet :=
  ⟨insertWord word set.words, insertWord_increasing set.increasing⟩

/-- The set of the members of a list. -/
def ofList (words : List String) : WordSet :=
  words.foldl insert empty

/-- Whether a word is a member. -/
def contains (set : WordSet) (word : String) : Bool :=
  set.words.contains word

end WordSet

end ContentClasses
