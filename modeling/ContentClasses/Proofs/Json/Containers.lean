import ContentClasses.Proofs.Json.Readers

/-! What is made of lists and objects, from what is made of their items and members. -/

namespace ContentClasses.Json

open Scan

/-- The texts of items up to the end of their list, after its opening or after an item. -/
inductive ItemsFrom : (first : Bool) → List Form → List Char → Prop where
  | empty {gap : List Char} (blank : Blank gap) : ItemsFrom true [] gap
  | first {gap word text : List Char} {item : Form} {rest : List Form} (blank : Blank gap)
      (head : Written item word) (tail : WrittenItems rest text) :
      ItemsFrom true (item :: rest) (gap ++ (word ++ text))
  | more {text : List Char} {items : List Form} (written : WrittenItems items text) :
      ItemsFrom false items text

/-- The texts of members up to the end of their object, after its opening or after a member. -/
inductive MembersFrom : (first : Bool) → List (Option String × Form) → List Char → Prop where
  | empty {gap : List Char} (blank : Blank gap) : MembersFrom true [] gap
  | first {gap word text : List Char} {member : Option String × Form}
      {rest : List (Option String × Form)} (blank : Blank gap) (head : WrittenMember member word)
      (tail : WrittenMembers rest text) : MembersFrom true (member :: rest) (gap ++ (word ++ text))
  | more {text : List Char} {members : List (Option String × Form)}
      (written : WrittenMembers members text) : MembersFrom false members text

section

variable {first : Bool} {text word : List Char}

/-- A list is written with its items between brackets. -/
theorem Written.exists_items {items : List Form} (written : Written (.list items) word) :
    ∃ text, word = '[' :: (text ++ [']']) ∧ ItemsFrom true items text := by
  cases written with
  | emptyList blank => exact ⟨_, rfl, .empty blank⟩
  | list blank head tail => exact ⟨_, by simp, .first blank head tail⟩

/-- An object is written with its members between braces. -/
theorem Written.exists_members {members : List (Option String × Form)}
    (written : Written (.object members) word) :
    ∃ text, word = '\x7b' :: (text ++ ['\x7d']) ∧ MembersFrom true members text := by
  cases written with
  | emptyObject blank => exact ⟨_, rfl, .empty blank⟩
  | object blank head tail => exact ⟨_, by simp, .first blank head tail⟩

/-- After the last item there is no other one. -/
theorem ItemsFrom.run?_nextItem_nil (written : ItemsFrom first [] text) (rest : List Char) :
    (nextItem first).run? (text ++ ']' :: rest) = some (false, ']' :: rest) := by
  have plain : isBlank ']' = false := by decide
  rcases written with blank | _ | ⟨⟨blank⟩⟩ <;>
    simp [nextItem, blank.dropWhile_append, plain]

/-- The next item is found behind the comma, if there must be one. -/
theorem ItemsFrom.run?_nextItem_cons {item : Form} {items : List Form}
    (written : ItemsFrom first (item :: items) text) (rest : List Char) :
    ∃ word tail, Written item word ∧ ItemsFrom false items tail ∧ tail.length < text.length ∧
      EndsValue (tail ++ ']' :: rest) ∧
      (nextItem first).run? (text ++ ']' :: rest) = some (true, word ++ (tail ++ ']' :: rest)) := by
  -- The first item follows the bracket at once, and every other one a comma.
  cases written with
  | @first gap word tail _ _ blank head others =>
    refine ⟨word, tail, head, .more others, ?_, others.endsValue rest, ?_⟩
    · obtain ⟨first, letters, rfl, _⟩ := head.exists_cons
      simp only [List.length_append, List.length_cons]
      omega
    · -- The first character of the item is not the bracket that ends the list.
      have passed := head.dropWhile_append blank (tail ++ ']' :: rest)
      obtain ⟨first, letters, rfl, start⟩ := head.exists_cons
      simp only [List.append_assoc, List.cons_append] at passed ⊢
      simp [nextItem, passed, start.apart]
  | more written =>
    cases written with
    | @next before after word tail _ _ blankBefore blankAfter head others =>
      refine ⟨word, tail, head, .more others, ?_, others.endsValue rest, ?_⟩
      · simp only [List.length_append, List.length_cons]
        omega
      · -- Behind the comma an item must stand, so a bracket there would be refused.
        have comma : isBlank ',' = false := by decide
        have passed := head.dropWhile_append blankAfter (tail ++ ']' :: rest)
        obtain ⟨first, letters, rfl, start⟩ := head.exists_cons
        simp only [List.append_assoc, List.cons_append] at passed ⊢
        simp [nextItem, blankBefore.dropWhile_append, comma, passed, start.apart]

/-- After the last member there is no other key. -/
theorem MembersFrom.run?_nextKey_nil (written : MembersFrom first [] text) (rest : List Char) :
    (nextKey first).run? (text ++ '\x7d' :: rest) = some (none, '\x7d' :: rest) := by
  have plain : isBlank '\x7d' = false := by decide
  rcases written with blank | _ | ⟨⟨blank⟩⟩ <;>
    simp [nextKey, blank.dropWhile_append, plain]

/-- The next key is read, and its value comes behind a colon. -/
theorem MembersFrom.run?_nextKey_cons {key : Option String} {form : Form}
    {members : List (Option String × Form)}
    (written : MembersFrom first ((key, form) :: members) text) (rest : List Char) :
    ∃ before after word tail, Blank before ∧ Blank after ∧ Written form word ∧
      MembersFrom false members tail ∧ tail.length < text.length ∧
      EndsValue (tail ++ '\x7d' :: rest) ∧
      (nextKey first).run? (text ++ '\x7d' :: rest) =
        key.map (some ·, before ++ ':' :: (after ++ (word ++ (tail ++ '\x7d' :: rest)))) := by
  have quote : isBlank '\x22' = false := by decide
  have comma : isBlank ',' = false := by decide
  -- The first key follows the brace at once, and every other one a comma.
  cases written with
  | @first gap _ tail _ _ blank head others =>
    obtain @⟨_, word, before, after, _, _, named, blankBefore, blankAfter, value⟩ := head
    refine ⟨before, after, word, tail, blankBefore, blankAfter, value, .more others, ?_,
      others.endsValue rest, ?_⟩
    · simp only [List.length_append, List.length_cons]
      omega
    · obtain ⟨spelled, rfl, read⟩ := named.run?_stringRest
      simp only [nextKey, run?_bind, run?_skipBlank, Option.bind_some, List.append_assoc,
        List.cons_append, blank.dropWhile_append]
      -- The key is followed by its colon and its value.
      cases key <;> simp [quote, read]
  | more written =>
    cases written with
    | @next outer inner _ tail _ _ blankOuter blankInner head others =>
      obtain @⟨_, word, before, after, _, _, named, blankBefore, blankAfter, value⟩ := head
      refine ⟨before, after, word, tail, blankBefore, blankAfter, value, .more others, ?_,
        others.endsValue rest, ?_⟩
      · simp only [List.length_append, List.length_cons]
        omega
      · obtain ⟨spelled, rfl, read⟩ := named.run?_stringRest
        simp only [nextKey, run?_bind, run?_skipBlank, Option.bind_some, List.append_assoc,
          List.cons_append, blankOuter.dropWhile_append]
        -- Behind the comma a key must stand.
        cases key <;> simp [comma, blankInner.dropWhile_append, quote, read]

end

section

variable {α : Type} {scan : Scan α} {decode : Form → Option α}

/-- Items that stand for values make a list that stands for the values. -/
theorem Form.listOf_map (form : α → Form) (values : List α)
    (stands : ∀ value ∈ values, decode (form value) = some value) :
    Form.listOf decode (.list (values.map form)) = some values := by
  show (values.map form).mapM decode = some values
  -- Each item is decoded for itself.
  induction values with
  | nil => rfl
  | cons value values ih =>
    have others := ih fun other among => stands other (.tail _ among)
    simp [stands value (.head _), others]

/-- Each item of a list that stands for values stands for one. -/
theorem Form.exists_of_listOf {items : List Form} {values : List α}
    (stands : Form.listOf decode (.list items) = some values) {item : Form} (among : item ∈ items) :
    ∃ value, decode item = some value := by
  -- All items are decoded if the list is, each for itself.
  change items.mapM decode = some values at stands
  induction items generalizing values with
  | nil => nomatch among
  | cons first items ih =>
    simp only [List.mapM_cons, Option.bind_eq_bind, Option.bind_eq_some_iff] at stands
    obtain ⟨value, read, others, rest, _⟩ := stands
    rcases List.mem_cons.mp among with rfl | later
    · exact ⟨value, read⟩
    · exact ih later rest

/-- The end of a list is read where it stands. -/
@[simp] theorem run?_finishList (rest : List Char) :
    finishList.run? (']' :: rest) = some ((), rest) := by
  simp [finishList, isBlank]

/-- The end of an object is read where it stands. -/
@[simp] theorem run?_finishObject (rest : List Char) :
    finishObject.run? ('\x7d' :: rest) = some ((), rest) := by
  simp [finishObject, isBlank]

/-- The items of a list are read one after the other. -/
theorem Reads.run?_itemsWithin (reads : Reads scan decode) {first : Bool} {items : List Form}
    {text : List Char} (written : ItemsFrom first items text) {budget : Nat}
    (enough : text.length < budget) (rest : List Char) :
    (itemsWithin scan budget first).run? (text ++ ']' :: rest) =
      (items.mapM decode).map (·, ']' :: rest) := by
  -- Each item takes at least one character, so that the budget lasts to the end.
  induction items generalizing first text budget with
  | nil =>
    -- The bracket is seen at once.
    obtain ⟨budget, rfl⟩ := Nat.exists_eq_succ_of_ne_zero (Nat.ne_zero_of_lt enough)
    simp [itemsWithin, written.run?_nextItem_nil]
  | cons item items ih =>
    obtain ⟨budget, rfl⟩ := Nat.exists_eq_succ_of_ne_zero (Nat.ne_zero_of_lt enough)
    obtain ⟨word, tail, head, others, shorter, ends, next⟩ := written.run?_nextItem_cons rest
    have value := reads head blank_nil ends
    have rounds := ih others (show tail.length < budget by omega)
    -- The value of the first item ends where the next comma or the bracket stands.
    rw [List.nil_append] at value
    simp only [itemsWithin, run?_bind, next, Option.bind_some, if_true, value, List.mapM_cons]
    cases decode item with
    -- An item that fails ends the list.
    | none => rfl
    | some value =>
      simp only [Option.map_some, Option.bind_some, rounds]
      cases items.mapM decode <;> rfl

/-- A list is read as what is read of its items. -/
theorem Reads.list (reads : Reads scan decode) (expected : String) :
    Reads (Scan.list scan expected) (Form.listOf decode) := by
  intro form word written gap rest blank ends
  obtain ⟨first, others, rfl, start, seen⟩ := written.run?_valueStart blank rest
  simp only [Scan.list, run?_bind, seen, Option.bind_some]
  -- Everything that does not open with a bracket is refused.
  have shown := start.shows
  cases form with
  | list items =>
    -- What stands between the brackets is read item by item.
    obtain ⟨text, same, inside⟩ := written.exists_items
    cases same
    have enough : text.length < (text ++ ']' :: rest).length + 1 := by
      rw [List.length_append]
      omega
    have read := reads.run?_itemsWithin inside enough rest
    simp only [run?_enclosed, run?_bind, run?_advance, run?_left, Option.bind_some,
      List.cons_append, List.append_assoc, List.nil_append, List.drop_one, List.tail_cons, read,
      Form.listOf]
    cases items.mapM decode <;> simp
  | _ => simp_all [Form.listOf]

end

/-- Whether a step reads the value behind a key and a colon as a function says. -/
def ReadsMember {σ : Type} (member : String → σ → Scan σ)
    (decode : String → σ → Form → Option σ) : Prop :=
  ∀ ⦃key : String⦄ ⦃state : σ⦄ ⦃form : Form⦄ ⦃word before after rest : List Char⦄,
    Written form word → Blank before → Blank after → EndsValue rest →
      (member key state).run? (before ++ ':' :: (after ++ (word ++ rest))) =
        (decode key state form).map (·, rest)

section

variable {α σ : Type} {member : String → σ → Scan σ} {decode : String → σ → Form → Option σ}

/-- The colon behind a key is read. -/
theorem run?_colon {before : List Char} (blank : Blank before) (rest : List Char) :
    colon.run? (before ++ ':' :: rest) = some ((), rest) := by
  have plain : isBlank ':' = false := by decide
  simp [colon, blank.dropWhile_append, plain]

/-- A value that nothing needs is passed over behind its key. -/
theorem Written.run?_skipMember {form : Form} {word before after rest : List Char}
    (written : Written form word) (blankBefore : Blank before) (blankAfter : Blank after)
    (ends : EndsValue rest) :
    skipMember.run? (before ++ ':' :: (after ++ (word ++ rest))) = some ((), rest) := by
  simp [skipMember, run?_colon blankBefore, written.run?_skipValue blankAfter ends]

/-- The members of an object are read one after the other. -/
theorem ReadsMember.run?_membersWithin (reads : ReadsMember member decode) {first : Bool}
    {members : List (Option String × Form)} {text : List Char}
    (written : MembersFrom first members text) {budget : Nat} (enough : text.length < budget)
    (state : σ) (rest : List Char) :
    (membersWithin member budget first state).run? (text ++ '\x7d' :: rest) =
      (members.foldlM (Form.memberOf decode) state).map (·, '\x7d' :: rest) := by
  -- Each member changes the state that the next one finds.
  induction members generalizing first text budget state with
  | nil =>
    obtain ⟨budget, rfl⟩ := Nat.exists_eq_succ_of_ne_zero (Nat.ne_zero_of_lt enough)
    -- The brace is seen at once.
    simp [membersWithin, written.run?_nextKey_nil]
  | cons entry members ih =>
    obtain ⟨budget, rfl⟩ := Nat.exists_eq_succ_of_ne_zero (Nat.ne_zero_of_lt enough)
    obtain ⟨key, form⟩ := entry
    obtain ⟨before, after, word, tail, blankBefore, blankAfter, value, others, shorter, ends,
      next⟩ := written.run?_nextKey_cons rest
    simp only [membersWithin, run?_bind, next, List.foldlM_cons, Form.memberOf]
    cases key with
    -- A key that is no text fails, and one that is decides what its value may be.
    | none => rfl
    | some key =>
      have read := @reads key state form word before after _ value blankBefore blankAfter ends
      simp only [Option.map_some, Option.bind_some, run?_bind, read]
      cases made : decode key state form with
      | none => simp [made]
      | some next =>
        have rounds := ih others (show tail.length < budget by omega) next
        simp only [Option.map_some, Option.bind_some, rounds]
        simp [made]

/-- An object is read as what its members build. -/
theorem ReadsMember.object (reads : ReadsMember member decode) {finish : σ → Scan α}
    {decodeEnd : σ → Option α}
    (finishes : ∀ state text, (finish state).run? text = (decodeEnd state).map (·, text))
    (expected : String) (start : σ) :
    Reads (Scan.object expected member start finish) (Form.objectOf decode start decodeEnd) := by
  intro form word written gap rest blank ends
  obtain ⟨first, others, rfl, opening, seen⟩ := written.run?_valueStart blank rest
  simp only [Scan.object, run?_bind, seen, Option.bind_some]
  -- Everything that does not open with a brace is refused.
  have shown := opening.shows
  cases form with
  | object entries =>
    -- What stands between the braces is read member by member.
    obtain ⟨text, same, inside⟩ := written.exists_members
    cases same
    have enough : text.length < (text ++ '\x7d' :: rest).length + 1 := by
      rw [List.length_append]
      omega
    have read := reads.run?_membersWithin inside enough start rest
    simp only [run?_enclosed, run?_bind, run?_advance, run?_left, Option.bind_some, Scan.members,
      List.cons_append, List.append_assoc, List.nil_append, List.drop_one, List.tail_cons, read,
      Form.objectOf]
    cases built : entries.foldlM (Form.memberOf decode) start with
    | none => simp
    -- At the end, the state may still lack a member.
    | some state =>
      simp only [Option.map_some, Option.bind_some, finishes]
      cases made : decodeEnd state <;> simp [made]
  | _ => simp_all [Form.objectOf]

/-- An object with one member is read as the value of that member says. -/
theorem run?_object_only {start state : σ} {finish : σ → Scan α} {value : α} {key : String}
    {text word gap rest : List Char}
    (named : (nextKey true).run? text = some (some key, word))
    (read : (member key start).run? word = some (state, gap ++ '\x7d' :: rest)) (blank : Blank gap)
    (finishes : (finish state).run? ('\x7d' :: rest) = some (value, '\x7d' :: rest))
    (expected : String) :
    (Scan.object expected member start finish).run? ('\x7b' :: text) = some (value, rest) := by
  have start : valueStart.run? ('\x7b' :: text) = some ('\x7b', '\x7b' :: text) := rfl
  have last := (MembersFrom.more (.done blank)).run?_nextKey_nil rest
  -- A text with a key is long enough for a second look, which finds the end.
  obtain ⟨budget, long⟩ : ∃ budget, text.length = budget + 1 := by
    cases text with
    | nil => nomatch named
    | cons c text => exact ⟨text.length, rfl⟩
  simp [Scan.object, start, Scan.members, membersWithin, long, named, read, last, finishes]

end

end ContentClasses.Json
