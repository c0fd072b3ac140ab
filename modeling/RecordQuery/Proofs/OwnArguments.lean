import RecordQuery.Proofs.SerializedNames

/-!
# Own arguments

The library's own attributes of a type or a field, and what is said by them. Each of these
attributes is read from nothing, so of several ones the last one counts. A structure whose
own arguments all have a meaning is declared with what the last own attributes of its items
say, and with what the serializer's attributes say where these are silent.
-/

namespace RecordQuery.Declaration

/-! ## Arguments of the own attributes -/

/-- The library's own attributes. -/
def ownAttributes (attributes : List Attribute) : List Attribute :=
  attributes.filter fun given => given.path == ownPath

/-- The arguments of attributes, one after the other. -/
def argumentsOf (attributes : List Attribute) : List Argument :=
  attributes.flatMap fun given => given.arguments.getD []

/-- All own arguments. -/
def ownArguments (attributes : List Attribute) : List Argument :=
  argumentsOf (ownAttributes attributes)

/-- The arguments of the last own attribute. -/
def lastArguments (attributes : List Attribute) : List Argument :=
  argumentsOf (ownAttributes attributes).getLast?.toList

/-- The arguments of the own attributes before the last one. -/
def lostArguments (attributes : List Attribute) : List Argument :=
  argumentsOf (ownAttributes attributes).dropLast

/-- Arguments with a meaning for a type. -/
inductive MeansForType : Argument → Prop where
  | name (value : String) : MeansForType (.assigned "name" (.text value))
  | rule (rule : NamingRule) : MeansForType (.assigned "rename_all" (.text rule.name))

/-- Arguments with a meaning for a field. -/
inductive MeansForField : Argument → Prop where
  | skip : MeansForField (.word "skip")
  | rename (key : String) : MeansForField (.assigned "rename" (.text key))

/-- Attributes whose own arguments all have a meaning, with no name given twice. -/
@[mk_iff]
structure Meaningful (means : Argument → Prop) (attributes : List Attribute) : Prop where
  written : ∀ given ∈ ownAttributes attributes, given.arguments.isSome
  meant : ∀ argument ∈ ownArguments attributes, means argument
  once : ((ownArguments attributes).map Argument.name).Nodup

theorem lostArguments_append_lastArguments (attributes : List Attribute) :
    lostArguments attributes ++ lastArguments attributes = ownArguments attributes := by
  rw [lostArguments, lastArguments, argumentsOf, argumentsOf, ← List.flatMap_append, ownArguments,
    argumentsOf]
  congr 1
  cases last : (ownAttributes attributes).getLast? with
  | none => simp [List.getLast?_eq_none_iff.1 last]
  | some given => exact List.dropLast_append_getLast? given last

theorem Meaningful.once_append {means : Argument → Prop} {attributes : List Attribute}
    (meaningful : Meaningful means attributes) :
    ((lostArguments attributes ++ lastArguments attributes).map Argument.name).Nodup := by
  rw [lostArguments_append_lastArguments]
  exact meaningful.once

theorem name_notMem_of_once {first second : List Argument}
    (once : ((first ++ second).map Argument.name).Nodup) {argument : Argument}
    (present : argument ∈ first) : argument.name ∉ second.map Argument.name := by
  rw [List.map_append, List.nodup_append] at once
  intro again
  exact once.2.2 _ (List.mem_map_of_mem present) _ again rfl

/-! ## Texts that arguments assign -/

section

variable {first second arguments : List Argument} {argument : Argument} {key value : String}

@[simp] theorem assignedText?_append :
    assignedText? (first ++ second) key =
      (assignedText? first key).or (assignedText? second key) :=
  List.findSome?_append

theorem assignedText?_of_notMem_names (absent : key ∉ arguments.map Argument.name) :
    assignedText? arguments key = none := by
  apply assignedText?_of_silent
  rintro argument present rfl
  exact absent (List.mem_map_of_mem present)

/-- With no name given twice, there is one text at most for a key. -/
theorem assignedText?_eq_some_iff (once : (arguments.map Argument.name).Nodup) :
    assignedText? arguments key = some value ↔ .assigned key (.text value) ∈ arguments := by
  refine ⟨mem_of_assignedText?, ?_⟩
  intro present
  refine assignedText?_of_unique present ?_
  intro argument other same
  exact List.inj_on_of_nodup_map once other present same

/-- A last argument under a new name decides on the text for this name. -/
theorem assignedText?_concat (fresh : argument.name ∉ arguments.map Argument.name) :
    assignedText? (arguments ++ [argument]) key =
      (assignedText? [argument] key).or (assignedText? arguments key) := by
  rw [assignedText?_append]
  by_cases same : argument.name = key
  · rw [same] at fresh
    rw [assignedText?_of_notMem_names fresh, Option.none_or, Option.or_none]
  · have other : key ∉ [argument].map Argument.name := by simpa using Ne.symm same
    rw [assignedText?_of_notMem_names other, Option.none_or, Option.or_none]

end

/-! ## Taking in arguments -/

/-- What own arguments say of a type. -/
def typeSaid (arguments : List Argument) : TypeOptions where
  name := assignedText? arguments "name"
  rule := (assignedText? arguments "rename_all").bind NamingRule.ofName?

/-- What own arguments say of a field. -/
def fieldSaid (arguments : List Argument) : FieldOptions where
  skip := arguments.contains (.word "skip")
  rename := assignedText? arguments "rename"

section

variable {α : Type} {means : Argument → Prop} {take : α → Argument → Except Fault α}
  {said : List Argument → α} {arguments rest : List Argument} {argument : Argument}
  {attributes : List Attribute}

theorem TypeOptions.take_rule (options : TypeOptions) (rule : NamingRule) :
    options.take (.assigned "rename_all" (.text rule.name)) =
      .ok { options with rule := some rule } := by
  cases rule <;> rfl

theorem MeansForType.take_typeSaid (means : MeansForType argument)
    (fresh : argument.name ∉ rest.map Argument.name) :
    (typeSaid rest).take argument = .ok (typeSaid (rest ++ [argument])) := by
  rw [typeSaid, typeSaid, assignedText?_concat fresh, assignedText?_concat fresh]
  cases means with
  | name value => simp [TypeOptions.take, textOf, assignedText?]
  | rule rule =>
      rw [TypeOptions.take_rule]
      simp [assignedText?, rule.ofName?_name]

theorem MeansForField.take_fieldSaid (means : MeansForField argument)
    (fresh : argument.name ∉ rest.map Argument.name) :
    (fieldSaid rest).take argument = .ok (fieldSaid (rest ++ [argument])) := by
  rw [fieldSaid, fieldSaid, assignedText?_concat fresh]
  cases means with
  | skip => simp [FieldOptions.take, assignedText?]
  | rename key => simp [FieldOptions.take, textOf, assignedText?]

/-- What is said by arguments that are taken in one after the other. -/
theorem foldlM_take_eq
    (takes : ∀ {rest argument}, means argument → argument.name ∉ rest.map Argument.name →
      take (said rest) argument = .ok (said (rest ++ [argument])))
    (meant : ∀ argument ∈ arguments, means argument)
    (once : (arguments.map Argument.name).Nodup) :
    arguments.foldlM take (said []) = .ok (said arguments) := by
  -- From the end, so that what is said before an argument has the form `said rest`.
  induction arguments using List.reverseRecOn with
  | nil => rfl
  | append_singleton rest argument ih =>
      obtain ⟨before, last⟩ := List.forall_mem_append.1 meant
      rw [List.map_append, List.map_singleton, ← List.concat_eq_append, List.nodup_concat] at once
      obtain ⟨fresh, onceBefore⟩ := once
      rw [List.foldlM_append, ih before onceBefore]
      exact (bind_pure _).trans (takes (List.forall_mem_singleton.1 last) fresh)

/-! ## Reading own attributes -/

/-- Each attribute is read from nothing, so nothing is left of those before the last one. -/
theorem foldlM_eq_last {read : Attribute → Except Fault α}
    (readable : ∀ given ∈ attributes, ∃ options, read given = .ok options) (options : α) :
    attributes.foldlM (fun _ given => read given) options =
      (attributes.getLast?.map read).getD (.ok options) := by
  induction attributes generalizing options with
  | nil => rfl
  | cons given rest ih =>
      obtain ⟨first, others⟩ := List.forall_mem_cons.1 readable
      obtain ⟨next, done⟩ := first
      rw [List.foldlM_cons, done, List.getLast?_cons]
      refine (ih others next).trans ?_
      cases rest.getLast? with
      | none => exact done.symm
      | some last => rfl

theorem read_eq {given : Attribute} (written : given.arguments.isSome)
    (named : ∀ argument ∈ argumentsOf [given], isArgumentName argument.name) :
    given.read = .ok (argumentsOf [given]) := by
  obtain ⟨arguments, are⟩ := Option.isSome_iff_exists.1 written
  have all : argumentsOf [given] = arguments := by simp [argumentsOf, are]
  rw [all] at named ⊢
  rw [Attribute.read, are]
  exact mapM_check named

theorem sublist_ownArguments {given : Attribute} (present : given ∈ ownAttributes attributes) :
    (argumentsOf [given]).Sublist (ownArguments attributes) :=
  (List.singleton_sublist.2 present).flatMap _

/-- Reading own attributes comes to what the last one says. -/
theorem readOwn_eq (meaningful : Meaningful means attributes)
    (named : ∀ argument, means argument → isArgumentName argument.name)
    (takes : ∀ {rest argument}, means argument → argument.name ∉ rest.map Argument.name →
      take (said rest) argument = .ok (said (rest ++ [argument]))) :
    readOwn (said []) take attributes = .ok (said (lastArguments attributes)) := by
  have reads : ∀ given ∈ ownAttributes attributes,
      (given.read >>= fun arguments => arguments.foldlM take (said [])) =
        .ok (said (argumentsOf [given])) := by
    intro given present
    have sublist := sublist_ownArguments present
    have meant : ∀ argument ∈ argumentsOf [given], means argument :=
      fun argument member => meaningful.meant argument (sublist.subset member)
    have read := read_eq (meaningful.written given present)
      fun argument member => named argument (meant argument member)
    rw [read]
    exact foldlM_take_eq takes meant (meaningful.once.sublist (sublist.map _))
  refine (foldlM_eq_last (fun given present => ⟨_, reads given present⟩) (said [])).trans ?_
  rw [lastArguments]
  cases last : (ownAttributes attributes).getLast? with
  | none => rfl
  | some given => exact reads given (List.mem_of_getLast? last)

end

/-! ## Declarations -/

/-- The serializer's convention, where the library has one for it. -/
def serializerRule? (attributes : List Attribute) : Option NamingRule :=
  (serializerText? attributes "rename_all").bind NamingRule.ofName?

/-- The convention of own arguments, or else the serializer's. -/
def ruleWith (arguments : List Argument) (attributes : List Attribute) : Option NamingRule :=
  ((assignedText? arguments "rename_all").bind NamingRule.ofName?).or (serializerRule? attributes)

/-- The constant and the record name of a field with own arguments, unless they or the
serializer skip it. -/
def entryWith (rule : Option NamingRule) (arguments : List Argument) (field : FieldDescription) :
    Option (String × String) :=
  if .word "skip" ∈ arguments ++ serializerArguments field.attributes then none
  else
    let given := (assignedText? arguments "rename").or (serializerText? field.attributes "rename")
    some (constantOf field, given.getD (declaredKey rule field))

/-- The declaration of a structure when some of the own arguments of each item count. -/
def declaredWith (counting : List Attribute → List Argument) (description : TypeDescription) :
    Declaration :=
  let rule := ruleWith (counting description.attributes) description.attributes
  { name := (assignedText? (counting description.attributes) "name").getD description.name
    constants := description.fields.filterMap fun field =>
      entryWith rule (counting field.attributes) field }

section

variable {attributes : List Attribute}

theorem typeOptions_eq (meaningful : Meaningful MeansForType attributes) :
    typeOptions attributes = .ok
      { name := assignedText? (lastArguments attributes) "name"
        rule := ruleWith (lastArguments attributes) attributes } := by
  have named : ∀ argument, MeansForType argument → isArgumentName argument.name := by
    intro argument means
    cases means with
    | name => exact (by decide : isArgumentName "name")
    | rule => exact (by decide : isArgumentName "rename_all")
  have own := readOwn_eq meaningful named MeansForType.take_typeSaid
  rw [typeOptions, show ({} : TypeOptions) = typeSaid [] from rfl, own]
  rfl

theorem fieldOptions_eq (meaningful : Meaningful MeansForField attributes) :
    fieldOptions attributes = .ok
      { skip := (lastArguments attributes ++ serializerArguments attributes).contains
          (.word "skip")
        rename := (assignedText? (lastArguments attributes) "rename").or
          (serializerText? attributes "rename") } := by
  have named : ∀ argument, MeansForField argument → isArgumentName argument.name := by
    intro argument means
    cases means with
    | skip => exact (by decide : isArgumentName "skip")
    | rename => exact (by decide : isArgumentName "rename")
  have own := readOwn_eq meaningful named MeansForField.take_fieldSaid
  rw [fieldOptions, show ({} : FieldOptions) = fieldSaid [] from rfl, own, List.contains_append]
  rfl

theorem entryWith_eq_none_iff {rule : Option NamingRule} {arguments : List Argument}
    {field : FieldDescription} : entryWith rule arguments field = none ↔
      .word "skip" ∈ arguments ++ serializerArguments field.attributes := by
  rw [entryWith]
  split
  · next skipped => exact iff_of_true rfl skipped
  · next kept => exact iff_of_false (Option.some_ne_none _) kept

theorem declareField_eq (rule : Option NamingRule) {field : FieldDescription}
    (meaningful : Meaningful MeansForField field.attributes) :
    declareField rule field =
      .ok (entryWith rule (lastArguments field.attributes) field) := by
  rw [declareField, fieldOptions_eq meaningful, entryWith, plainName_eq]
  by_cases skipped :
    .word "skip" ∈ lastArguments field.attributes ++ serializerArguments field.attributes
  · rw [if_pos skipped, List.contains_iff_mem.2 skipped]
    rfl
  · have kept : (lastArguments field.attributes ++ serializerArguments field.attributes).contains
        (.word "skip") = false := by simpa using skipped
    rw [if_neg skipped, kept]
    cases (assignedText? (lastArguments field.attributes) "rename").or
      (serializerText? field.attributes "rename") with
    | some given => rfl
    | none => cases rule <;> rfl

theorem mapM_declareField_eq (rule : Option NamingRule) {fields : List FieldDescription}
    (meaningful : ∀ field ∈ fields, Meaningful MeansForField field.attributes) :
    fields.mapM (declareField rule) = .ok (fields.map fun field =>
      entryWith rule (lastArguments field.attributes) field) := by
  induction fields with
  | nil => rfl
  | cons field rest ih =>
      obtain ⟨first, others⟩ := List.forall_mem_cons.1 meaningful
      rw [List.mapM_cons, declareField_eq rule first, ih others]
      rfl

/-- A structure is declared with what the last own attribute of each item says. -/
theorem ofType_eq {description : TypeDescription} (named : description.kind = .named)
    (type : Meaningful MeansForType description.attributes)
    (fields : ∀ field ∈ description.fields, Meaningful MeansForField field.attributes) :
    ofType description = .ok (declaredWith lastArguments description) := by
  have present (entry : FieldDescription → Option (String × String)) :
      (description.fields.map entry).filterMap id = description.fields.filterMap entry :=
    List.filterMap_map
  rw [ofType, typeOptions_eq type, named]
  show (description.fields.mapM (declareField _)).bind _ = _
  rw [mapM_declareField_eq _ fields, declaredWith, ← present]
  rfl

/-- No other type can be declared, for a reason that its kind alone decides. -/
theorem exists_fault_of_not_named {kind : TypeKind} (unnamed : kind ≠ .named) :
    ∃ fault, ∀ {description : TypeDescription}, description.kind = kind →
      Meaningful MeansForType description.attributes → ofType description = .error fault := by
  cases kind with
  | named => exact absurd rfl unnamed
  | positional | empty =>
      refine ⟨.unnamedFields, ?_⟩
      intro description is type
      rw [ofType, typeOptions_eq type, is]
      rfl
  | alternatives | overlapping =>
      refine ⟨.notAStructure, ?_⟩
      intro description is type
      rw [ofType, typeOptions_eq type, is]
      rfl

end

end RecordQuery.Declaration
