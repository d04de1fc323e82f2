import ContentClasses.CommandLine.Run
import ContentClasses.Proofs.CommandLine.Arguments
import ContentClasses.Proofs.Generation.Success
import ContentClasses.Proofs.Json.Choices
import ContentClasses.Proofs.Json.Printed
import ContentClasses.Proofs.Json.Records

/-! Class specifications are read from every JSON text that says them, and the text that shows them
is one. -/

namespace ContentClasses

open Json

namespace DescriptorKind

/-- The type that stands beside a kind. -/
def decode : DescriptorKind → Form → Option TypeDescriptor
  | .scalar, form => (form.choice scalarNames).map .scalar
  | .listOf, form => (form.choice domainNames).map .listOf
  | .reference, form => (form.choice domainNames).map .reference

/-- The choice that a value stands for, which may have an empty object in the place of `null`. -/
def chosen? {α : Type} (choices : List (String × α)) : Value → Option α
  | .string name => choices.lookup name
  | .object [(name, content)] =>
    match content with
    | .null | .object [] => choices.lookup name
    | _ => none
  | _ => none

/-- The type that a value stands for once its kind is known. -/
def ofValue? (value : Value) : DescriptorKind → Option TypeDescriptor
  | .scalar => (chosen? scalarNames value).map .scalar
  | .listOf => (chosen? domainNames value).map .listOf
  | .reference => (chosen? domainNames value).map .reference

/-- The type that stands beside a kind is read as its name is. -/
theorem reads (kind : DescriptorKind) : Reads kind.read kind.decode := by
  -- Each kind is read by a choice of its own names.
  intro form word written gap rest blank ends
  cases kind <;>
    simp only [read, decode, Scan.run?_bind, reads_choice _ written blank ends] <;>
    cases Form.choice _ form <;> rfl

/-- A choice taken from a value takes nothing from the text. -/
theorem run?_chosen {α : Type} (choices : List (String × α)) (value : Value) (text : List Char) :
    (chosen choices value).run? text = (chosen? choices value).map (·, text) := by
  -- The value has been read already, so only the name in it counts.
  unfold chosen chosen?
  split
  · exact run?_known choices _ text
  · simp only [Scan.run?_bind, run?_known]
    split <;> cases choices.lookup _ <;> simp_all
  · simp_all
  · simp_all

/-- A type taken from a value takes nothing from the text. -/
theorem run?_ofValue (kind : DescriptorKind) (value : Value) (text : List Char) :
    (kind.ofValue value).run? text = (kind.ofValue? value).map (·, text) := by
  cases kind <;> simp only [ofValue, ofValue?, Scan.run?_bind, run?_chosen] <;>
    cases chosen? _ value <;> rfl

end DescriptorKind

/-- What one member of a field type adds to what is known of the type. -/
def DescriptorState.add (depth : Nat) (key : String) (state : DescriptorState) (form : Form) :
    Option DescriptorState :=
  match key, state with
  | "kind", .nothing => (form.choice descriptorKindNames).map .kind
  | "kind", .content value => do
    return .complete (← (← form.choice descriptorKindNames).ofValue? value)
  | "kind", _ => none
  | "type", .nothing => (form.valueWithin (maxDepth - depth)).map .content
  | "type", .kind chosen => (chosen.decode form).map .complete
  | "type", _ => none
  | _, _ => some state

/-- The type, if both of its parts are known. -/
def DescriptorState.complete? : DescriptorState → Option TypeDescriptor
  | .complete type => some type
  | _ => none

/-- The field type that a form stands for inside so many open containers. -/
def TypeDescriptor.ofForm? (depth : Nat) : Form → Option TypeDescriptor
  | .list [kind, type] => do (← kind.choice descriptorKindNames).decode type
  | .list _ => none
  | form => Form.objectOf (fun key state => state.add (depth + 1) key) .nothing
      DescriptorState.complete? form

/-- The fields of a field as forms give them. -/
def FieldSpec.formFields (depth : Nat) : List (FormField FieldSpec) := [
  .of "name" .required Form.text fun name field => { field with name },
  .of "type" .required (TypeDescriptor.ofForm? (depth + 1)) fun type field => { field with type },
  .of "source_codename" .required Form.text fun source field => { field with source }]

/-- The field that a form stands for. -/
def FieldSpec.ofForm? (depth : Nat) : Form → Option FieldSpec :=
  Form.record (FieldSpec.formFields depth) { name := "", type := .scalar .string, source := "" }

/-- The fields of an accessor as forms give them. -/
def AccessorSpec.formFields : List (FormField AccessorSpec) := [
  .of "kind" .required (Form.choice accessorNames) fun kind accessor => { accessor with kind },
  .of "name" .required Form.text fun name accessor => { accessor with name },
  .of "field" .required Form.text fun field accessor => { accessor with field }]

/-- The accessor that a form stands for. -/
def AccessorSpec.ofForm? : Form → Option AccessorSpec :=
  Form.record AccessorSpec.formFields { kind := .getter, name := "", field := "" }

/-- The fields of a class specification as forms give them. -/
def ClassSpec.formFields (depth : Nat) : List (FormField ClassSpec) := [
  .of "name" .required Form.text fun name spec => { spec with name },
  .of "fields" .required (Form.listOf (FieldSpec.ofForm? (depth + 2))) fun fields spec =>
    { spec with fields },
  .of "accessors" .required (Form.listOf AccessorSpec.ofForm?) fun accessors spec =>
    { spec with accessors },
  .of "provenance" .required Form.text fun provenance spec => { spec with provenance },
  .of "documentation" .required (Form.listOf Form.text) fun documentation spec =>
    { spec with documentation }]

/-- The class specification that a form stands for. -/
def ClassSpec.ofForm? (depth : Nat) : Form → Option ClassSpec :=
  Form.record (ClassSpec.formFields depth)
    { name := "", fields := [], accessors := [], provenance := "", documentation := [] }

section

variable (depth : Nat)

/-- One member of a field type is read as what it adds. -/
theorem readsMember_descriptorMember :
    ReadsMember (descriptorMember depth) fun key state => state.add depth key := by
  intro key state form word before after rest written blankBefore blankAfter ends
  have kinds := reads_choice descriptorKindNames written blankAfter ends
  have values := reads_valueWithin (maxDepth - depth) written blankAfter ends
  unfold descriptorMember DescriptorState.add
  -- Which part comes next depends on the key and on what is known already.
  split
  · simp only [Scan.run?_bind, run?_colon blankBefore, Option.bind_some, kinds]
    cases form.choice descriptorKindNames <;> rfl
  · rename_i value
    simp only [Scan.run?_bind, run?_colon blankBefore, Option.bind_some, kinds]
    cases form.choice descriptorKindNames with
    | none => rfl
    | some kind =>
      simp only [Option.map_some, Option.bind_some, DescriptorKind.run?_ofValue]
      cases made : kind.ofValue? value <;> simp [made]
  · -- A second kind or type is refused.
    simp_all
  · simp only [Scan.run?_bind, run?_colon blankBefore, Option.bind_some, values]
    cases form.valueWithin (maxDepth - depth) <;> rfl
  · rename_i kind
    simp only [Scan.run?_bind, run?_colon blankBefore, Option.bind_some,
      DescriptorKind.reads _ written blankAfter ends]
    cases kind.decode form <;> rfl
  · -- A type comes after its kind, and any other key is passed over.
    simp_all
  · simp_all [written.run?_skipMember blankBefore blankAfter ends]

/-- A field type ends well if both of its parts were read. -/
theorem run?_descriptorEnd (state : DescriptorState) (text : List Char) :
    (descriptorEnd state).run? text = state.complete?.map (·, text) := by
  cases state <;> rfl

/-- The two parts of a field type are read from the items of a list, up to its end. -/
theorem run?_descriptorItems {items : List Form} {text : List Char}
    (written : ItemsFrom true items text) (expected : String) (rest : List Char) :
    ((descriptorItems expected).run? (text ++ ']' :: rest)).bind (fun outcome =>
        (Scan.finishList.run? outcome.2).map fun closed => (outcome.1, closed.2)) =
      (TypeDescriptor.ofForm? depth (.list items)).map (·, rest) := by
  -- Both parts must be there, and nothing after them.
  match items with
  -- A list may end before the kind or behind it, and both are too early.
  | [] => simp [descriptorItems, written.run?_nextItem_nil, TypeDescriptor.ofForm?]
  | [kind] =>
    obtain ⟨word, tail, first, others, _, ends, next⟩ := written.run?_nextItem_cons rest
    have read := reads_choice descriptorKindNames first blank_nil ends
    rw [List.nil_append] at read
    simp only [descriptorItems, Scan.run?_bind, next, Option.bind_some, if_true, read]
    cases kind.choice descriptorKindNames <;>
      simp [others.run?_nextItem_nil, TypeDescriptor.ofForm?]
  -- With two items, the kind decides how the type beside it is read.
  | kind :: type :: more =>
    obtain ⟨word, tail, first, others, _, ends, next⟩ := written.run?_nextItem_cons rest
    obtain ⟨_, last, second, after, _, endsSecond, behind⟩ := others.run?_nextItem_cons rest
    have read := reads_choice descriptorKindNames first blank_nil ends
    rw [List.nil_append] at read
    simp only [descriptorItems, Scan.run?_bind, next, Option.bind_some, if_true, read]
    cases chosen : kind.choice descriptorKindNames with
    | none => cases more <;> simp [TypeDescriptor.ofForm?, chosen]
    | some name =>
      have beside := name.reads second blank_nil endsSecond
      rw [List.nil_append] at beside
      simp only [Option.map_some, Option.bind_some, behind, if_true, beside]
      cases made : name.decode type with
      | none => cases more <;> simp [TypeDescriptor.ofForm?, chosen, made]
      | some value =>
        simp only [Option.map_some, Option.bind_some, after.run?_finishList]
        -- Behind the type the list must end.
        cases more <;> simp [TypeDescriptor.ofForm?, chosen, made]

/-- A field type is read in either of its forms. -/
theorem reads_typeDescriptor :
    Reads (readTypeDescriptor depth) (TypeDescriptor.ofForm? depth) := by
  intro form word written gap rest blank ends
  -- The members of an object are the two parts in either order.
  have asObject := (readsMember_descriptorMember (depth + 1)).object run?_descriptorEnd
    "adjacently tagged enum TypeDescriptor" .nothing written blank_nil ends
  rw [List.nil_append] at asObject
  obtain ⟨first, others, rfl, start, seen⟩ := written.run?_valueStart blank rest
  simp only [readTypeDescriptor, Scan.run?_bind, seen, Option.bind_some]
  have shown := start.shows
  cases form with
  | list items =>
    obtain ⟨text, same, inside⟩ := written.exists_items
    cases same
    -- The items of a list are the two parts in this order.
    have read := run?_descriptorItems depth inside "adjacently tagged enum TypeDescriptor" rest
    simp only [List.append_assoc, List.cons_append] at read ⊢
    simpa [TypeDescriptor.ofForm?] using read
  | _ => simp_all [TypeDescriptor.ofForm?]

/-- A field is read as its parts are. -/
theorem reads_fieldSpec : Reads (readFieldSpec depth) (FieldSpec.ofForm? depth) :=
  .record (.cons ((reads_text _).field _ _ _) (.cons ((reads_typeDescriptor _).field _ _ _)
    (.cons ((reads_text _).field _ _ _) .nil))) _ _

/-- An accessor is read as its parts are. -/
theorem reads_accessorSpec : Reads readAccessorSpec AccessorSpec.ofForm? :=
  .record (.cons ((reads_choice _).field _ _ _) (.cons ((reads_text _).field _ _ _)
    (.cons ((reads_text _).field _ _ _) .nil))) _ _

/-- A class specification is read as its parts are. -/
theorem reads_classSpec : Reads (readClassSpec depth) (ClassSpec.ofForm? depth) :=
  -- The members of the record come in the order of its declaration.
  .record (.cons ((reads_text _).field _ _ _)
    (.cons (((reads_fieldSpec _).list _).field _ _ _)
    (.cons ((reads_accessorSpec.list _).field _ _ _)
    (.cons ((reads_text _).field _ _ _)
    (.cons (((reads_text _).list _).field _ _ _) .nil))))) _ _

end

section

variable (depth : Nat)

/-- The written form of a field type stands for it. -/
@[simp] theorem TypeDescriptor.ofForm?_toJson (type : TypeDescriptor) :
    TypeDescriptor.ofForm? depth type.toJson.form = some type := by
  -- Each name is in the table of its kind.
  cases type with
  | scalar type => cases type <;> rfl
  | listOf item => cases item <;> rfl
  | reference target => cases target <;> rfl

/-- The written form of a field stands for it. -/
theorem FieldSpec.ofForm?_toJson (field : FieldSpec) :
    FieldSpec.ofForm? depth field.toJson.form = some field := by
  simp [FieldSpec.toJson, Value.form, FieldSpec.ofForm?, Form.record, Form.objectOf, Form.memberOf,
    Form.recordMember, Form.recordEnd, FieldSpec.formFields, FormField.of, Form.text]

/-- The written form of an accessor stands for it. -/
theorem AccessorSpec.ofForm?_toJson (accessor : AccessorSpec) :
    AccessorSpec.ofForm? accessor.toJson.form = some accessor := by
  -- The kind of an accessor is found again under its own name.
  have kind : (Form.string (some (nameIn accessorNames accessor.kind))).choice accessorNames =
      some accessor.kind := by
    cases accessor.kind <;> rfl
  simp [AccessorSpec.toJson, Value.form, AccessorSpec.ofForm?, Form.record, Form.objectOf,
    Form.memberOf, Form.recordMember, Form.recordEnd, AccessorSpec.formFields, FormField.of,
    Form.text, kind]

/-- The written form of a class specification stands for it. -/
theorem ClassSpec.ofForm?_toJson (spec : ClassSpec) :
    ClassSpec.ofForm? depth spec.toJson.form = some spec := by
  -- The lists inside stand for themselves, item by item.
  have fields := Form.listOf_map (fun field : FieldSpec => field.toJson.form) spec.fields
    fun field _ => FieldSpec.ofForm?_toJson (depth + 2) field
  have accessors := Form.listOf_map (fun accessor : AccessorSpec => accessor.toJson.form)
    spec.accessors
    fun accessor _ => AccessorSpec.ofForm?_toJson accessor
  have documentation := Form.listOf_map (fun line => .string (some line)) spec.documentation
    fun line _ => show Form.text _ = some line from rfl
  simp [ClassSpec.toJson, Value.form, ClassSpec.ofForm?, Form.record, Form.objectOf, Form.memberOf,
    Form.recordMember, Form.recordEnd, ClassSpec.formFields, FormField.of, Form.text,
    Function.comp_def, fields, accessors, documentation]

/-- There are no numbers in the written form of a class specification. -/
theorem ClassSpec.plain_toJson (spec : ClassSpec) : spec.toJson.Plain := by
  -- Each part is made of texts, and of objects and lists of texts.
  have type (type : TypeDescriptor) : type.toJson.Plain :=
    .object (by simp [Value.Plain.string])
  have field (field : FieldSpec) : field.toJson.Plain :=
    .object (by simp [Value.Plain.string, type])
  have accessor (accessor : AccessorSpec) : accessor.toJson.Plain :=
    .object (by simp [Value.Plain.string])
  have fields : (Value.list (spec.fields.map FieldSpec.toJson)).Plain :=
    .list (by simp [field])
  have accessors : (Value.list (spec.accessors.map AccessorSpec.toJson)).Plain :=
    .list (by simp [accessor])
  have documentation : (Value.list (spec.documentation.map .string)).Plain :=
    .list (by simp [Value.Plain.string])
  exact .object (by simp [Value.Plain.string, fields, accessors, documentation])

end

/-- The text that shows class specifications is read back as the same specifications, whatever
blanks come after it. -/
theorem readDocument_dumpSpecs_append (specs : List ClassSpec) (gap : String)
    (blank : Blank gap.toList) :
    readDocument (Scan.list (readClassSpec 1)) (dumpSpecs specs ++ gap) = .ok specs := by
  have plain : (Value.list (specs.map ClassSpec.toJson)).Plain :=
    .list (by simp [ClassSpec.plain_toJson])
  -- The form of the text is the list of the forms, and each of these stands for its class.
  refine (((reads_classSpec 1).list _).readDocument_ok_iff
    (plain.isDocument_append gap blank)).mpr ?_
  have stands := Form.listOf_map (fun spec : ClassSpec => spec.toJson.form) specs
    fun spec _ => ClassSpec.ofForm?_toJson 1 spec
  simpa [Value.form, Function.comp_def] using stands

/-- The line with the class specifications, if it is asked for, is read back as they are. -/
theorem readDocument_asked {options : CommandLine.Options} (asked : options.dumpSpecs = true)
    (specs : List ClassSpec) :
    readDocument (Scan.list (readClassSpec 1)) (CommandLine.specDump options specs) =
      .ok specs := by
  have printed := readDocument_dumpSpecs_append specs "\n" (by simp [Scan.isBlank])
  simpa [CommandLine.specDump, asked, CommandLine.lines, String.join] using printed

/-- Class specifications are read back from the text that shows them, and from the line with which
a run prints it on request. -/
theorem readDocument_specDump (options : CommandLine.Options) (specs : List ClassSpec) :
    readDocument (Scan.list (readClassSpec 1)) (dumpSpecs specs) = .ok specs ∧
      readDocument (Scan.list (readClassSpec 1))
        (CommandLine.specDump { options with dumpSpecs := true } specs) = .ok specs := by
  have alone := readDocument_dumpSpecs_append specs "" (by simp)
  exact ⟨by simpa using alone, readDocument_asked rfl specs⟩

namespace CommandLine

variable {arguments : List String} {options : Options} {settings : Settings} {files : FileSystem}

/-- Whether a text is part of another one. -/
def ShownIn (part text : String) : Prop := ∃ before after, text = before ++ part ++ after

/-- What is shown in a text is shown in one that goes on with it. -/
theorem ShownIn.behind {part text : String} (shown : ShownIn part text) (front : String) :
    ShownIn part (front ++ text) := by
  obtain ⟨before, after, rfl⟩ := shown
  exact ⟨front ++ before, after, by simp only [String.append_assoc]⟩

/-- The report on classes that were not written shows their specifications on request. -/
theorem rehearsalText_shows (options : Options) (batch : Batch) :
    ShownIn (specDump options batch.specs) (rehearsalText options batch) :=
  ⟨_, _, String.append_assoc⟩

/-- The report on classes that were written shows their specifications on request. -/
theorem summaryText_shows (options : Options) (summary : RunSummary) :
    ShownIn (specDump options summary.specs) (summaryText options summary) :=
  ⟨_, _, String.append_assoc⟩

/-- A finished rehearsal has shown the classes of the types in the schema. -/
theorem rehearse_shows (finished : (rehearse options settings files).failure = none) :
    ∃ schema types, settings.schema.path = some schema ∧ files.fetchTypes schema = .ok types ∧
      ShownIn (specDump options (settings.codegen.generate types).specs)
        (rehearse options settings files).printed := by
  -- Every other exit reports a failure.
  unfold rehearse at finished ⊢
  split at finished
  · cases finished
  · split at finished
    · cases finished
    · rename_i schema given
      split at finished
      · cases finished
      · rename_i types fetched
        exact ⟨schema, types, given, fetched, (rehearsalText_shows options _).behind _⟩

/-- A finished generation has shown the classes of the types that the schema held when the output
directory was ready. -/
theorem generate_shows (finished : (generate options settings files).1.failure = none) :
    ∃ schema types, settings.schema.path = some schema ∧
      (OutputDirectory.prepare files settings.output.directory).2.fetchTypes schema = .ok types ∧
      ShownIn (specDump options (settings.codegen.generate types).specs)
        (generate options settings files).1.printed := by
  -- A run that is finished has fetched its types, and its summary has their classes.
  unfold generate at finished ⊢
  split at finished
  · cases finished
  · -- Neither a directory that is not ready nor a schema that is missing leads to a finished run.
    rename_i output prepared ready
    split at finished
    · cases finished
    · rename_i schema given
      dsimp only at finished ⊢
      split at finished
      · cases finished
      · rename_i summary space ran
        cases fetched : prepared.fetchTypes schema with
        | error error => simp [fetched, CodegenConfig.run] at ran
        | ok types =>
          -- The classes are those of the types that were fetched.
          rw [fetched] at ran
          obtain ⟨_, _, same⟩ := CodegenConfig.run_ok ran
          have shown := (summaryText_shows options summary).behind (heading settings schema)
          exact ⟨schema, types, given, by rwa [ready], same ▸ shown⟩

/-- A call that succeeds prints what is performed. -/
theorem call_succeeds [Host] {environment : List (String × String)}
    (read : readArguments arguments = .ok options)
    (succeeded : (call arguments environment files).exitCode = 0) :
    (perform options environment files).1.failure = none ∧
      (call arguments environment files).stdout =
        (perform options environment files).1.printed := by
  cases done : perform options environment files with
  | mk report reached =>
    rcases report with ⟨printed, _ | failure⟩
    · simp [call, read, done]
    · -- A failure would have given another exit code.
      simp [call, read, done] at succeeded

/-- A call that succeeds and is asked for the class specifications, and not for the settings only,
prints those of the types that it has read, and they are read back from that part of its output. -/
theorem call_shows [Host] {environment : List (String × String)}
    (read : readArguments arguments = .ok options) (asked : "--dump-specs" ∈ arguments)
    (running : "--print-config" ∉ arguments)
    (succeeded : (call arguments environment files).exitCode = 0) :
    ∃ loaded schema types, loadSettings files environment options.config = .ok loaded ∧
      let settings := options.onto loaded
      let seen := if options.dryRun then files
        else (OutputDirectory.prepare files settings.output.directory).2
      let specs := (settings.codegen.generate types).specs
      settings.schema.path = some schema ∧ seen.fetchTypes schema = .ok types ∧
      ShownIn (specDump options specs) (call arguments environment files).stdout ∧
      readDocument (Scan.list (readClassSpec 1)) (specDump options specs) = .ok specs := by
  -- The settings are not printed, as nobody has asked for them.
  obtain ⟨_, print, dump⟩ := readArguments_flags read
  have silent : options.printConfig = false := by simpa using mt print.mp running
  obtain ⟨finished, printed⟩ := call_succeeds read succeeded
  -- What is printed is that of the run itself.
  rw [printed]
  unfold perform at finished ⊢
  cases found : loadSettings files environment options.config with
  | error fault => simp [found] at finished
  | ok loaded =>
    simp only [found, silent, Bool.false_eq_true, if_false] at finished ⊢
    -- Both kinds of run show what they have built, from the files that they have seen.
    cases rehearsing : options.dryRun with
    | true =>
      simp only [rehearsing, if_true] at finished ⊢
      obtain ⟨schema, types, given, fetched, shown⟩ := rehearse_shows finished
      exact ⟨loaded, schema, types, rfl, given, fetched, shown,
        readDocument_asked (dump.mpr asked) _⟩
    | false =>
      simp only [rehearsing, Bool.false_eq_true, if_false] at finished ⊢
      obtain ⟨schema, types, given, fetched, shown⟩ := generate_shows finished
      exact ⟨loaded, schema, types, rfl, given, fetched, shown,
        readDocument_asked (dump.mpr asked) _⟩

end CommandLine

end ContentClasses
