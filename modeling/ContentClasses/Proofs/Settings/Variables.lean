import ContentClasses.Proofs.Settings.Leaves
import ContentClasses.Settings.Load
import Mathlib.Data.List.Basic

/-! What a variable of the environment gives: what its text is taken for, and which name the
variable for a leaf has. -/

namespace ContentClasses

namespace Environment

/-- The truth value or number that a text is taken for. -/
def guess? (text : String) : Option Scalar :=
  if text.toList.map Char.toLower = "true".toList then some (.boolean true)
  else if text.toList.map Char.toLower = "false".toList then some (.boolean false)
  else match integer? text.toList with
    | some value => some (.integer value)
    | none => (float? text.toList).map .float

/-- The text that a variable gives where a text is wanted. -/
def respelled (text : String) : String :=
  match guess? text with
  | some (.boolean value) => if value then "true" else "false"
  | some (.integer value) => toString value
  | some (.float value) => value.positional
  | _ => text

/-- The pieces of a text between its commas. -/
def commaPieces (text : String) : List String := (text.toList.splitOn ',').map String.ofList

variable {key text : String}

/-- A text that is taken for nothing else is not respelled. -/
theorem respelled_of_guess? (plain : guess? text = none) : respelled text = text := by
  simp [respelled, plain]

/-- A variable gives the truth value or the number that its text is taken for, or else its text, as
a list if that is wanted. -/
theorem setting_eq (key text : String) :
    setting key text =
      match guess? text with
      | some value => .scalar value (some origin)
      | none =>
        if key = listKey then
          .list ((commaPieces text).map fun piece => .scalar (.text piece) (some origin))
            (some origin)
        else .scalar (.text text) (some origin) := by
  -- The four guesses are made in the same order.
  simp only [setting, guess?, commaPieces]
  split
  · rfl
  · split
    · rfl
    · cases integer? text.toList with
      | some value => rfl
      | none => cases float? text.toList <;> rfl

/-- What a text is taken for is written as the text respelled. -/
theorem run_text_guess {value : Scalar} (taken : guess? text = some value)
    (given : Option String) : Decode.text.run (.scalar value given) = .ok (respelled text) := by
  -- A text is never taken for nothing, nor for another text.
  have other : value ≠ .nothing ∧ ∀ inner, value ≠ .text inner := by
    simp only [guess?] at taken
    split at taken
    · cases taken
      simp
    · split at taken
      · cases taken
        simp
      · split at taken
        · cases taken
          simp
        · obtain ⟨number, _, rfl⟩ := Option.map_eq_some_iff.mp taken
          simp
  -- Each of the other three values has one way to be written, which is the respelling.
  cases value with
  | nothing => exact absurd rfl other.1
  | text inner => exact absurd rfl (other.2 inner)
  | boolean value => simp only [respelled, taken]; rfl
  | integer value => simp only [respelled, taken]; rfl
  | float value => simp only [respelled, taken]; rfl

/-- What a variable gives that holds no list is read as its text respelled. -/
theorem run_text_setting (other : key ≠ listKey) (text : String) :
    Decode.text.run (setting key text) = .ok (respelled text) := by
  rw [setting_eq]
  -- A text that can be taken for something else is respelled, and any other is taken as it is.
  cases taken : guess? text with
  | some value => exact run_text_guess taken (some origin)
  | none =>
    rw [respelled_of_guess? taken]
    simp only [if_neg other]
    rfl

/-- What a variable gives that holds no list is something. -/
theorem run_optional_setting (other : key ≠ listKey) (text : String) :
    (Decode.optional Decode.text).run (setting key text) = .ok (some (respelled text)) := by
  have read := run_text_setting other text
  revert read
  -- Nothing could not be read as a text.
  rcases setting key text with ⟨_ | _ | _ | _ | _, _⟩ | _ | _ <;> intro read
  · cases read
  all_goals exact congrArg (Except.map some) read

/-- The texts of a list are read in their order. -/
theorem textsFrom_texts (texts : List String) (given : Option String) (index : Nat) :
    Decode.textsFrom index (texts.map fun text => .scalar (.text text) given) = .ok texts := by
  -- The position matters for faults only, and there are none.
  induction texts generalizing index with
  | nil => rfl
  | cons text texts ih =>
    simp only [List.map_cons, Decode.textsFrom, ih]
    rfl

/-- A text that is taken for nothing else gives the set of its pieces where a list is wanted. -/
theorem run_wordSet_setting (plain : guess? text = none) :
    Decode.wordSet.run (setting listKey text) = .ok (.ofList (commaPieces text)) := by
  rw [setting_eq, plain]
  show (Decode.textsFrom 0 ((commaPieces text).map fun piece =>
    .scalar (.text piece) (some origin))).map WordSet.ofList = _
  rw [textsFrom_texts]
  rfl

/-- A text that is taken for something else gives nothing where a list is wanted. -/
theorem run_wordSet_setting_fails {value : Scalar} (taken : guess? text = some value)
    (words : WordSet) : Decode.wordSet.run (setting listKey text) ≠ .ok words := by
  -- A truth value or a number is no list.
  rw [setting_eq, taken]
  exact nofun

/-- A variable gives no table, so that what it gives replaces what was there. -/
theorem setting_onto (key text name : String) (entries : List (String × Setting)) :
    (setting key text).onto name entries =
      Association.put (lowerKey name) (setting key text) entries := by
  rw [setting_eq]
  split
  · simp [Setting.onto]
  · split <;> simp [Setting.onto]

end Environment

namespace Leaf

/-- The characters of the key that leads to a leaf. -/
def keyChars (leaf : Leaf) : List Char := ['.'].intercalate (leaf.path.map String.toList)

/-- The key that leads to a leaf. -/
def key (leaf : Leaf) : String := String.ofList leaf.keyChars

/-- The characters of the name of the variable for a leaf. -/
def variableChars (leaf : Leaf) : List Char :=
  "CODEGEN__".toList ++ "__".toList.intercalate
    (leaf.path.map fun name => name.toList.map Char.toUpper)

/-- The name of the variable for a leaf. -/
def variableName (leaf : Leaf) : String := String.ofList leaf.variableChars

/-- The variable for a leaf has its key. -/
theorem settingKey?_variableName (leaf : Leaf) :
    Environment.settingKey? leaf.variableName = some leaf.key := by
  -- The leaves are looked at one by one, and as characters, which the check need not take from a
  -- text again and again.
  have checked : ∀ leaf ∈ all,
      Environment.opening.isPrefixOf (leaf.variableChars.map lowerKeyChar) = true ∧
      Environment.dotted ((leaf.variableChars.map lowerKeyChar).drop
        Environment.opening.length) = leaf.keyChars := by
    decide +kernel
  obtain ⟨opens, rest⟩ := checked leaf leaf.mem_all
  simp [Environment.settingKey?, variableName, opens, rest, key]

/-- The key of a leaf is a path of the names that lead to it. -/
theorem ofKey_key (leaf : Leaf) :
    KeyPath.ofKey leaf.key = ⟨leaf.path.headD "", leaf.path.tail.map .key⟩ := by
  have checked : ∀ leaf ∈ all,
      KeyPath.ofKey leaf.key = ⟨leaf.path.headD "", leaf.path.tail.map .key⟩ := by
    decide +kernel
  exact checked leaf leaf.mem_all

/-- The variable for a leaf is none of those that tell where the user's files are. -/
theorem variableName_ne (leaf : Leaf) :
    leaf.variableName ≠ "HOME" ∧ leaf.variableName ≠ "XDG_CONFIG_HOME" := by
  -- The names of all leaves are compared with both.
  have checked : ∀ leaf ∈ all, leaf.variableChars ≠ "HOME".toList ∧
      leaf.variableChars ≠ "XDG_CONFIG_HOME".toList := by
    decide +kernel
  have chars : leaf.variableName.toList = leaf.variableChars := String.toList_ofList
  obtain ⟨home, user⟩ := checked leaf leaf.mem_all
  exact ⟨fun same => home (by rw [← chars, same]), fun same => user (by rw [← chars, same])⟩

/-- Only the acronyms are given as a list. -/
theorem key_eq_listKey_iff (leaf : Leaf) : leaf.key = Environment.listKey ↔ leaf = .acronyms := by
  have checked : ∀ leaf ∈ all, leaf.keyChars = Environment.listKey.toList ↔ leaf = .acronyms := by
    decide +kernel
  -- Texts are the same exactly if their characters are.
  rw [← checked leaf leaf.mem_all, ← String.toList_inj, key, String.toList_ofList]

end Leaf

end ContentClasses
