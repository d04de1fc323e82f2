import ContentClasses.Json.Printer
import ContentClasses.Proofs.Json.Form

/-! The written form of a value without numbers says what the value is. -/

namespace ContentClasses.Json

open Scan

/-- Values in which there are no numbers. -/
inductive Value.Plain : Value → Prop where
  | null : Plain .null
  | boolean (value : Bool) : Plain (.boolean value)
  | string (value : String) : Plain (.string value)
  | list {items : List Value} (each : ∀ item ∈ items, Plain item) : Plain (.list items)
  | object {members : List (String × Value)} (each : ∀ member ∈ members, Plain member.2) :
      Plain (.object members)

mutual

/-- What the text of a value says. -/
def Value.form : Value → Form
  | .null => .null
  | .boolean value => .boolean value
  | .integer value => .number (toString value).toList
  | .float value => .number value.compact.toList
  | .string value => .string (some value)
  | .list items => .list (formItems items)
  | .object members => .object (formMembers members)

/-- What the texts of items say. -/
def formItems : List Value → List Form
  | [] => []
  | item :: rest => item.form :: formItems rest

/-- What the texts of members say. -/
def formMembers : List (String × Value) → List (Option String × Form)
  | [] => []
  | (key, value) :: rest => (some key, value.form) :: formMembers rest

end

/-- The items of a list say what each of them says. -/
@[simp] theorem formItems_eq_map (items : List Value) : formItems items = items.map Value.form := by
  induction items with
  | nil => rfl
  | cons item items ih => rw [formItems, ih, List.map_cons]

/-- The members of an object say what each of them says. -/
@[simp] theorem formMembers_eq_map (members : List (String × Value)) :
    formMembers members = members.map fun member => (some member.1, member.2.form) := by
  induction members with
  | nil => rfl
  | cons member members ih => rw [formMembers, ih, List.map_cons]

/-- The digits of a control character are read as its code. -/
theorem hexDigits_control {code : Nat} (control : code < 0x20) :
    HexDigits ['0', '0', hexDigit (code / 16), hexDigit (code % 16)] code where
  four := rfl
  value := by
    revert code
    decide

/-- A character inside a string is spelled as itself. -/
theorem Spells.stringChar (c : Char) {text : List Char} {content : Option (List Char)}
    (rest : Spells text content) : Spells (stringChar c ++ text) (content.map (c :: ·)) := by
  unfold Json.stringChar
  -- Seven characters have short escapes, and the other controls have numeric ones.
  split
  case h_8 quote backslash _ _ _ _ _ =>
    by_cases control : c.toNat < 0x20
    · rw [if_pos control]
      have spelled := Spells.numeric (hexDigits_control control) (by
          simp only [isHighSurrogate, Bool.and_eq_false_iff, decide_eq_false_iff_not]
          -- A control is far below the surrogates, so its escape stands for itself.
          omega) (by
          simp only [isLowSurrogate, Bool.and_eq_false_iff, decide_eq_false_iff_not]
          omega) rest
      rwa [Char.ofNat_toNat] at spelled
    · rw [if_neg control]
      exact .plain ⟨quote, backslash, Nat.not_lt.mp control⟩ rest
  -- The seven named ones are spelled by their letters.
  all_goals exact .short rfl rest

/-- A written string has its content between quotes. -/
theorem writtenString_written (text : String) : WrittenString (some text) (writtenString text) := by
  -- A string is spelled character by character.
  have spelled : ∀ chars : List Char, Spells (chars.flatMap stringChar) (some chars) := by
    intro chars
    induction chars with
    | nil => exact .done
    | cons c chars ih => exact ih.stringChar c
  have written := WrittenString.mk (spelled text.toList)
  rw [Option.map_some, String.ofList_toList] at written
  simpa [writtenString] using written

/-- A line break and what it begins a line with are blank. -/
theorem blank_lineBreak (level : Nat) : Blank (lineBreak level) := by
  simp [lineBreak, Blank, isBlank]

/-- A space is blank. -/
theorem blank_space : Blank [' '] := by
  simp [isBlank]

mutual

/-- The written form of a value says what the value is. -/
theorem Value.Plain.written {value : Value} (plain : value.Plain) (level : Nat) :
    Written value.form (value.written level) := by
  -- The levels only change the blanks, which may be anything.
  match value, plain with
  | .null, _ => exact .null
  | .boolean true, _ => exact .yes
  | .boolean false, _ => exact .no
  | .string text, _ => exact .string (writtenString_written text)
  | .list [], _ => exact .emptyList blank_nil
  | .list (first :: rest), .list each =>
    -- The lines behind the first item are one level deeper, which only moves their blanks.
    have others := writtenItems_written (fun item among => each item (.tail _ among))
      (level + 1) (blank_lineBreak level)
    have whole := Written.list (blank_lineBreak (level + 1))
      ((each first (.head _)).written (level + 1)) others
    simpa [Value.written, Value.form] using whole
  | .object [], _ => exact .emptyObject blank_nil
  -- The keys of an object are strings, which are spelled as such.
  | .object ((key, value) :: rest), .object each =>
    have others := writtenMembers_written (fun member among => each member (.tail _ among))
      (level + 1) (blank_lineBreak level)
    have first := WrittenMember.mk (writtenString_written key) blank_nil
      blank_space ((each (key, value) (.head _)).written (level + 1))
    have whole := Written.object (blank_lineBreak (level + 1)) first others
    simpa [Value.written, Value.form] using whole

/-- The written forms of items say what the items are. -/
theorem writtenItems_written {items : List Value} (each : ∀ item ∈ items, item.Plain)
    (level : Nat) {gap : List Char} (blank : Blank gap) :
    WrittenItems (items.map Value.form) (writtenItems level items ++ gap) := by
  -- Each further item stands on a line of its own behind its comma.
  match items with
  | [] => exact .done blank
  | item :: rest =>
    have others := writtenItems_written (fun item among => each item (.tail _ among)) level blank
    have whole := WrittenItems.next blank_nil (blank_lineBreak level)
      ((each item (.head _)).written level) others
    simpa [writtenItems] using whole

/-- The written forms of members say what the members are. -/
theorem writtenMembers_written {members : List (String × Value)}
    (each : ∀ member ∈ members, member.2.Plain) (level : Nat) {gap : List Char}
    (blank : Blank gap) :
    WrittenMembers (members.map fun member => (some member.1, member.2.form))
      (writtenMembers level members ++ gap) := by
  -- Each further member stands on a line of its own behind its comma.
  match members with
  | [] => exact .done blank
  | (key, value) :: rest =>
    have others := writtenMembers_written (fun member among => each member (.tail _ among)) level
      blank
    have first := WrittenMember.mk (writtenString_written key) blank_nil
      blank_space ((each (key, value) (.head _)).written level)
    have whole := WrittenMembers.next blank_nil (blank_lineBreak level) first others
    simpa [writtenMembers] using whole

end

/-- The written form of a whole value says what the value is, whatever blanks come after it. -/
theorem Value.Plain.isDocument_append {value : Value} (plain : value.Plain) (gap : String)
    (blank : Blank gap.toList) : IsDocument value.form (value.pretty ++ gap) :=
  .mk blank_nil (plain.written 0) blank (by simp [Value.pretty])

/-- The written form of a whole value says what the value is. -/
theorem Value.Plain.isDocument {value : Value} (plain : value.Plain) :
    IsDocument value.form value.pretty := by
  have document := plain.isDocument_append "" (by simp)
  rwa [String.append_empty] at document

end ContentClasses.Json
