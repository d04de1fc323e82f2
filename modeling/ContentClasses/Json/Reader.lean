import ContentClasses.Json.Skip

/-! Readers for typed values: texts, numbers, choices, lists, objects and records. -/

namespace ContentClasses.Json

namespace Scan

/-- Fails because the value that comes next has another type; one that is no container is read
first. -/
def wrongType {α : Type} (expected : String) : Scan α := do
  match ← peek with
  | some 'n' => do
    advance
    letters ['u', 'l', 'l']
    failHere (.invalidType .nothing expected)
  | some 't' => do
    advance
    letters ['r', 'u', 'e']
    failHere (.invalidType (.boolean true) expected)
  | some 'f' => do
    advance
    letters ['a', 'l', 's', 'e']
    failHere (.invalidType (.boolean false) expected)
  | some '\x22' => do
    advance
    let value ← stringRest
    failHere (.invalidType (.text value) expected)
  | some '[' => failHere (.invalidType .list expected)
  | some '\x7b' => failHere (.invalidType .table expected)
  | some c =>
    if c = '-' || c.isDigit then do
      match ← signedNumber with
      | .whole value => failHere (.invalidType (.integer value) expected)
      | .fraction value => failHere (.invalidType (.float value) expected)
    else failNext .expectedValue
  | none => failNext .expectedValue

/-- Reads a string. -/
def text (expected : String := "a string") : Scan String := do
  match ← valueStart with
  | '\x22' => do
    advance
    stringRest
  | _ => wrongType expected

/-- Reads a whole number below `2 ^ 32`. -/
def natural32 : Scan Nat := do
  let c ← valueStart
  if c = '-' || c.isDigit then do
    match ← signedNumber with
    | .whole value =>
      if 0 ≤ value && value < 0x100000000 then pure value.toNat
      else failHere (.invalidValue (.integer value) "u32")
    | .fraction value => failHere (.invalidType (.float value) "u32")
  else wrongType "u32"

/-- Reads `null` as nothing, and any other value by a given reader. -/
def optional {α : Type} (scan : Scan α) : Scan (Option α) := do
  skipBlank
  match ← peek with
  | some 'n' => do
    advance
    letters ['u', 'l', 'l']
    pure none
  | _ => do
    let value ← scan
    pure (some value)

/-- Reads the end of a list. -/
def finishList : Scan Unit := do
  skipBlank
  match ← peek with
  | none => failNext .endInList
  | some ']' => advance
  | some ',' => do
    advance
    skipBlank
    match ← peek with
    | some ']' => failNext .trailingComma
    | _ => failNext .trailingCharacters
  | some _ => failNext .trailingCharacters

/-- Reads the end of an object. -/
def finishObject : Scan Unit := do
  skipBlank
  match ← peek with
  | none => failNext .endInObject
  | some '\x7d' => advance
  | some ',' => failNext .trailingComma
  | some _ => failNext .trailingCharacters

/-- Moves to the next item of a list and says whether there is one. -/
def nextItem (first : Bool) : Scan Bool := do
  skipBlank
  match ← peek with
  | none => failNext .endInList
  | some ']' => pure false
  | some c =>
    if first then pure true
    else if c = ',' then do
      advance
      skipBlank
      match ← peek with
      | none => failNext .endInValue
      | some ']' => failNext .trailingComma
      | some _ => pure true
    else failNext .expectedItemOrEnd

/-- Moves to the next member of an object, and reads its key if there is one. -/
def nextKey (first : Bool) : Scan (Option String) := do
  skipBlank
  match ← peek with
  | none => failNext .endInObject
  | some '\x7d' => pure none
  | some c =>
    if !first && c ≠ ',' then failNext .expectedMemberOrEnd
    else do
      if !first then do
        advance
        skipBlank
      match ← peek with
      | some '\x22' => do
        advance
        let key ← stringRest
        pure (some key)
      | some '\x7d' => failNext .trailingComma
      | some _ => failNext .keyNotString
      | none => failNext .endInValue

/-- Reads the colon after a key. -/
def colon : Scan Unit := do
  skipBlank
  match ← peek with
  | none => failNext .endInObject
  | some ':' => advance
  | some _ => failNext .expectedColon

/-- Reads the items of a list up to its end. -/
def itemsWithin {α : Type} (scan : Scan α) : (budget : Nat) → (first : Bool) → Scan (List α)
  | 0, _ => pure []
  | budget + 1, first => do
    if ← nextItem first then do
      let item ← scan
      let items ← itemsWithin scan budget false
      pure (item :: items)
    else pure []

/-- Reads a list of values. -/
def list {α : Type} (scan : Scan α) (expected : String := "a sequence") : Scan (List α) := do
  match ← valueStart with
  | '[' => enclosed finishList do
    advance
    let rest ← left
    itemsWithin scan (rest.length + 1) true
  | _ => wrongType expected

/-- Reads the members of an object up to its end, each by a step that starts after the key. -/
def membersWithin {σ : Type} (member : String → σ → Scan σ) :
    (budget : Nat) → (first : Bool) → σ → Scan σ
  | 0, _, state => pure state
  | budget + 1, first, state => do
    match ← nextKey first with
    | none => pure state
    | some key => do
      let next ← member key state
      membersWithin member budget false next

/-- Reads the members of an object after its opening brace. -/
def members {σ : Type} (member : String → σ → Scan σ) (start : σ) : Scan σ := do
  let rest ← left
  membersWithin member (rest.length + 1) true start

/-- Reads an object and finishes what its members have built. -/
def object {σ α : Type} (expected : String) (member : String → σ → Scan σ) (start : σ)
    (finish : σ → Scan α) : Scan α := do
  match ← valueStart with
  | '\x7b' => enclosed finishObject do
    advance
    let built ← members member start
    finish built
  | _ => wrongType expected

/-- Reads a value that nothing needs, after its key. -/
def skipMember : Scan Unit := do
  colon
  skipValue

end Scan

/-- Whether a field of a record may be left out. -/
inductive Presence where
  /-- The field must be given. -/
  | required
  /-- The field may be missing from an object, but not from a list. -/
  | listed
  /-- The field may be missing. -/
  | optional
  deriving DecidableEq, Repr

/-- A field of a record: its key and the reader of the change that its value makes. -/
structure RecordField (α : Type) where
  key : String
  presence : Presence
  change : Scan (α → α)

/-- A field whose value, read by a given reader, is put into the record by a given function. -/
def RecordField.of {α β : Type} (key : String) (presence : Presence) (scan : Scan β)
    (put : β → α → α) : RecordField α where
  key := key
  presence := presence
  change := do
    let value ← scan
    pure (put value)

namespace Scan

/-- Reads one member of a record: a known field once, and any other member without looking at it. -/
def recordMember {α : Type} (fields : List (RecordField α)) (key : String)
    (state : α × List String) : Scan (α × List String) := do
  match fields.find? (·.key = key) with
  | none => do
    skipMember
    pure state
  | some field =>
    if state.2.contains key then fail (.duplicateField key)
    else do
      colon
      let change ← field.change
      pure (change state.1, state.2 ++ [key])

/-- The record, unless a required field was not given. -/
def recordEnd {α : Type} (fields : List (RecordField α)) (state : α × List String) : Scan α :=
  match fields.find? fun field => field.presence = .required && !state.2.contains field.key with
  | some field => fail (.missingField field.key)
  | none => pure state.1

/-- Reads the fields of a record that is written as a list, in their order. -/
def recordItems {α : Type} (expected : String) : (index : Nat) → List (RecordField α) → α → Scan α
  | _, [], value => pure value
  | index, field :: rest, value => do
    if ← nextItem (index = 0) then do
      let change ← field.change
      recordItems expected (index + 1) rest (change value)
    else if field.presence = .optional then recordItems expected (index + 1) rest value
    else fail (.invalidLength index expected)

/-- Reads a record, written as an object or as the list of its fields, as changes to a blank one. -/
def record {α : Type} (name : String) (fields : List (RecordField α)) (blank : α) : Scan α := do
  match ← valueStart with
  | '[' => enclosed finishList do
    advance
    let wanted := "struct " ++ name ++ " with " ++ toString fields.length ++ " elements"
    recordItems wanted 0 fields blank
  | _ => object ("struct " ++ name) (recordMember fields) (blank, []) (recordEnd fields)

/-- The value with a name, or a failure that lists the known names. -/
def known {α : Type} (choices : List (String × α)) (name : String) : Scan α :=
  match choices.lookup name with
  | some value => pure value
  | none => fail (.unknownVariant name (choices.map (·.1)))

/-- Reads nothing but `null`. -/
def unit : Scan Unit := do
  match ← valueStart with
  | 'n' => do
    advance
    letters ['u', 'l', 'l']
  | _ => wrongType "unit"

/-- Reads one of several names, alone or as the only key of an object with the value `null`. -/
def choice {α : Type} (choices : List (String × α)) : Scan α := do
  match ← valueStart with
  | '\x22' => settled do
    advance
    let name ← stringRest
    known choices name
  | '\x7b' => do
    advance
    let value ← settled do
      let name ← text "variant identifier"
      known choices name
    colon
    unit
    skipBlank
    match ← peek with
    | some '\x7d' => do
      advance
      pure value
    | some _ => failHere .expectedValue
    | none => failHere .endInObject
  | _ => failNext .expectedValue

end Scan

end ContentClasses.Json
