import ContentClasses.Proofs.Naming.Codename
import ContentClasses.Proofs.Text.Pieces
import Mathlib.Computability.Language

/-! Snake case is a regular language, and its codenames are those that can be put together again
from their words. -/

namespace ContentClasses

open scoped Computability

/-- Texts of one snake-case character, `[a-z0-9]`. -/
def snakeCharacter : Language Char := {text | ∃ c, isSnakeChar c = true ∧ text = [c]}

/-- Snake-case words, `[a-z0-9]+`. -/
def snakeWord : Language Char := snakeCharacter * snakeCharacter∗

/-- Snake-case words that follow another one, `_[a-z0-9]+`. -/
def laterWord : Language Char := {['_']} * snakeWord

/-- Snake-case codenames, `[a-z0-9]+(_[a-z0-9]+)*`, from their first to their last character. -/
def snakeCase : Language Char := snakeWord * laterWord∗

/-- A snake-case character is one in the ranges of the pattern. -/
theorem mem_snakeCharacter {text : List Char} :
    text ∈ snakeCharacter ↔ ∃ c, isSnakeChar c = true ∧ text = [c] :=
  Iff.rfl

/-- Any number of snake-case characters is a text of snake-case characters only. -/
theorem mem_kstar_snakeCharacter {text : List Char} :
    text ∈ snakeCharacter∗ ↔ ∀ c ∈ text, isSnakeChar c = true := by
  rw [Language.mem_kstar]
  constructor
  · rintro ⟨parts, rfl, each⟩ c inside
    obtain ⟨part, among, inside⟩ := List.mem_flatten.mp inside
    obtain ⟨other, snake, rfl⟩ := mem_snakeCharacter.mp (each part among)
    rwa [List.mem_singleton.mp inside]
  · -- Each character is a part of its own.
    intro all
    refine ⟨text.map fun c => [c], ?_, fun part among => ?_⟩
    · rw [← List.flatMap_def, List.flatMap_singleton']
    · obtain ⟨c, inside, rfl⟩ := List.mem_map.mp among
      exact mem_snakeCharacter.mpr ⟨c, all c inside, rfl⟩

/-- The words of the pattern are the snake-case words. -/
theorem mem_snakeWord {text : List Char} : text ∈ snakeWord ↔ IsSnakeWord text := by
  -- One character of the class stands in front, and any number of them behind it.
  rw [snakeWord, Language.mem_mul]
  constructor
  · rintro ⟨-, ⟨c, snake, rfl⟩, rest, others, rfl⟩
    refine ⟨by simp, fun other inside => ?_⟩
    rcases List.mem_cons.mp inside with rfl | inside
    · exact snake
    · exact mem_kstar_snakeCharacter.mp others other inside
  · rintro ⟨present, all⟩
    -- A word is never empty, so its first character can be split off.
    cases text with
    | nil => exact absurd rfl present
    | cons c rest =>
      have first : [c] ∈ snakeCharacter := mem_snakeCharacter.mpr ⟨c, all c (.head _), rfl⟩
      have others : rest ∈ snakeCharacter∗ :=
        mem_kstar_snakeCharacter.mpr fun other inside => all other (.tail _ inside)
      exact ⟨[c], first, rest, others, rfl⟩

/-- A later word is an underscore before a snake-case word. -/
theorem mem_laterWord {text : List Char} :
    text ∈ laterWord ↔ ∃ word, IsSnakeWord word ∧ text = '_' :: word := by
  -- The language is that of the underscore followed by that of the words.
  rw [laterWord, Language.mem_mul]
  constructor
  · rintro ⟨-, rfl, word, member, rfl⟩
    exact ⟨word, mem_snakeWord.mp member, rfl⟩
  · rintro ⟨word, snake, rfl⟩
    exact ⟨['_'], rfl, word, mem_snakeWord.mpr snake, rfl⟩

/-- Any number of later words are snake-case words with an underscore before each. -/
theorem mem_kstar_laterWord {text : List Char} :
    text ∈ laterWord∗ ↔
      ∃ words : List (List Char), (∀ word ∈ words, IsSnakeWord word) ∧
        text = words.flatMap ('_' :: ·) := by
  rw [Language.mem_kstar]
  constructor
  · rintro ⟨parts, rfl, each⟩
    -- The words are the parts without the underscores in front.
    refine ⟨parts.map List.tail, ?_, ?_⟩
    · intro word among
      obtain ⟨part, member, rfl⟩ := List.mem_map.mp among
      obtain ⟨word, snake, rfl⟩ := mem_laterWord.mp (each part member)
      exact snake
    · rw [List.flatMap_map, List.flatten_eq_flatMap]
      refine List.flatMap_congr fun part member => ?_
      obtain ⟨word, -, rfl⟩ := mem_laterWord.mp (each part member)
      rfl
  · rintro ⟨words, each, rfl⟩
    -- Each word gets its underscore back.
    refine ⟨words.map ('_' :: ·), by rw [List.flatMap_def], fun part among => ?_⟩
    obtain ⟨word, member, rfl⟩ := List.mem_map.mp among
    exact mem_laterWord.mpr ⟨word, each word member, rfl⟩

/-- The pattern matches the texts that are snake-case words joined by single underscores. -/
theorem mem_snakeCase {text : List Char} :
    text ∈ snakeCase ↔
      ∃ words, words ≠ [] ∧ (∀ word ∈ words, IsSnakeWord word) ∧
        ['_'].intercalate words = text := by
  -- The text is a first word and any number of later ones.
  rw [snakeCase, Language.mem_mul]
  constructor
  · rintro ⟨first, opening, rest, later, rfl⟩
    obtain ⟨words, each, rfl⟩ := mem_kstar_laterWord.mp later
    refine ⟨first :: words, by simp, fun word among => ?_, intercalate_cons first words⟩
    rcases List.mem_cons.mp among with rfl | among
    · exact mem_snakeWord.mp opening
    · exact each word among
  · rintro ⟨words, present, each, rfl⟩
    -- The words are not none, so there is a first one to split off.
    cases words with
    | nil => exact absurd rfl present
    | cons first rest =>
      have opening : first ∈ snakeWord := mem_snakeWord.mpr (each first (.head _))
      have later : rest.flatMap ('_' :: ·) ∈ laterWord∗ :=
        mem_kstar_laterWord.mpr ⟨rest, fun word among => each word (.tail _ among), rfl⟩
      exact ⟨first, opening, _, later, (intercalate_cons first rest).symm⟩

/-- A snake-case word has no underscore. -/
theorem IsSnakeWord.underscore_not_mem {word : List Char} (snake : IsSnakeWord word) :
    '_' ∉ word := by
  intro inside
  exact absurd (snake.2 '_' inside) (by decide)

/-- Snake-case words joined by single underscores are a snake-case codename. -/
theorem isSnakeCase_of_intercalate {codename : String} {words : List (List Char)}
    (present : words ≠ []) (each : ∀ word ∈ words, IsSnakeWord word)
    (joined : ['_'].intercalate words = codename.toList) : isSnakeCase codename = true := by
  rw [isSnakeCase_iff_pieces, ← joined,
    List.splitOn_intercalate '_' (fun word among => (each word among).underscore_not_mem) present]
  exact each

/-- A codename is snake case exactly if it has words, all of lower-case letters and digits, that
give the codename back when they are joined by single underscores, and that is exactly if the
pattern matches the whole of it. -/
theorem isSnakeCase_iff_joined (codename : String) :
    (isSnakeCase codename = true ↔
      codenameWords codename.toList ≠ [] ∧
        (∀ word ∈ codenameWords codename.toList, ∀ c ∈ word, isSnakeChar c = true) ∧
        ['_'].intercalate (codenameWords codename.toList) = codename.toList) ∧
    (isSnakeCase codename = true ↔ codename.toList ∈ snakeCase) := by
  -- The scan is compared with the split, and both with the pattern.
  constructor
  · constructor
    · intro snake
      exact ⟨codenameWords_ne_nil snake, fun word among => (isSnakeWord_of_mem snake among).2,
        intercalate_codenameWords snake⟩
    · rintro ⟨present, plain, joined⟩
      -- No word is empty, because empty pieces are dropped.
      refine isSnakeCase_of_intercalate present (fun word among => ⟨?_, plain word among⟩) joined
      exact (mem_pieces among).1
  · rw [mem_snakeCase]
    constructor
    · intro snake
      exact ⟨_, codenameWords_ne_nil snake, fun word among => isSnakeWord_of_mem snake among,
        intercalate_codenameWords snake⟩
    · rintro ⟨words, present, each, joined⟩
      -- Joined by single underscores, the words are those of the split.
      exact isSnakeCase_of_intercalate present each joined

/-- A line feed at the end and letters outside ASCII are no exceptions. -/
example : isSnakeCase "post_date" = true ∧ isSnakeCase "post_date\n" = false ∧
    isSnakeCase "größe" = false := by
  decide

end ContentClasses
