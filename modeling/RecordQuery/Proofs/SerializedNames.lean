import Mathlib
import RecordQuery.Declaration.Basic

/-!
# Declared fields and serialized names

The serializer leaves out the fields that it is told to skip, and writes the others under
a given name or under the name that its convention makes. A declaration reads the same
attributes, so that its fields are the keys of the records. They are, but for two
conventions. Camel case is not applied to the first letter of a name, and an underscore
before it even makes it a capital. Capitals with dashes are not known at all.
-/

namespace RecordQuery.Declaration

/-! ## What the serializer writes -/

/-- The conventions of the serializer. -/
inductive SerializerRule where
  | lower
  | upper
  | pascal
  | camel
  | snake
  | screamingSnake
  | kebab
  | screamingKebab
  deriving DecidableEq

namespace SerializerRule

/-- The name of a convention, written in its own style. -/
def name : SerializerRule → String
  | lower => "lowercase"
  | upper => "UPPERCASE"
  | pascal => "PascalCase"
  | camel => "camelCase"
  | snake => "snake_case"
  | screamingSnake => "SCREAMING_SNAKE_CASE"
  | kebab => "kebab-case"
  | screamingKebab => "SCREAMING-KEBAB-CASE"

/-- The words of a name in a row, each with a capital. -/
def capitalized (field : List Char) : List Char :=
  (Text.pieces '_' field).flatMap fun word => word.modifyHead Char.toUpper

/-- A name with dashes for underscores. -/
def dashed (field : List Char) : List Char :=
  field.map fun character => if character = '_' then '-' else character

/-- The key under which a field is written. -/
def apply (rule : SerializerRule) (field : List Char) : List Char :=
  match rule with
  | lower | snake => field
  | upper | screamingSnake => field.map Char.toUpper
  | kebab => dashed field
  | screamingKebab => dashed (field.map Char.toUpper)
  | pascal => capitalized field
  | camel => (capitalized field).modifyHead Char.toLower

end SerializerRule

/-- All arguments that attributes give to the serializer. -/
def givenArguments (attributes : List Attribute) : List Argument :=
  (attributes.filter fun given => given.path = serializerPath).flatMap fun given =>
    given.arguments.getD []

/-- Attributes that the serializer accepts, with none of the library's own among them.
The arguments can be read, and there is one under the given name at most. -/
structure ForSerializer (attributes : List Attribute) (name : String) : Prop where
  notOwn : ∀ given ∈ attributes, given.path ≠ ownPath
  readable : ∀ given ∈ attributes, given.path = serializerPath →
    given.arguments.isSome ∧ ∀ argument ∈ given.arguments.getD [], isArgumentName argument.name
  once : ∀ first ∈ givenArguments attributes, ∀ second ∈ givenArguments attributes,
    first.name = name → second.name = name → first = second

instance decidableForSerializer (attributes : List Attribute) (name : String) :
    Decidable (ForSerializer attributes name) :=
  decidable_of_iff
    ((∀ given ∈ attributes, given.path ≠ ownPath) ∧
      (∀ given ∈ attributes, given.path = serializerPath →
        given.arguments.isSome ∧
          ∀ argument ∈ given.arguments.getD [], isArgumentName argument.name) ∧
      ∀ first ∈ givenArguments attributes, ∀ second ∈ givenArguments attributes,
        first.name = name → second.name = name → first = second)
    ⟨fun ⟨notOwn, readable, once⟩ => ⟨notOwn, readable, once⟩,
      fun accepted => ⟨accepted.notOwn, accepted.readable, accepted.once⟩⟩

/-- The convention that the attributes of a type ask for. -/
inductive AsksFor (attributes : List Attribute) : Option SerializerRule → Prop where
  | none : (∀ argument ∈ givenArguments attributes, argument.name ≠ "rename_all") →
      AsksFor attributes none
  | some (rule : SerializerRule) :
      .assigned "rename_all" (.text rule.name) ∈ givenArguments attributes →
        AsksFor attributes (some rule)

namespace FieldDescription

variable (field : FieldDescription)

/-- A field that is skipped. -/
def Skipped : Prop := .word "skip" ∈ givenArguments field.attributes

instance decidableSkipped : Decidable field.Skipped :=
  inferInstanceAs (Decidable (.word "skip" ∈ givenArguments field.attributes))

/-- A field that is renamed. -/
def Renamed (key : String) : Prop :=
  .assigned "rename" (.text key) ∈ givenArguments field.attributes

instance decidableRenamed (key : String) : Decidable (field.Renamed key) :=
  inferInstanceAs (Decidable (.assigned "rename" (.text key) ∈ givenArguments field.attributes))

/-- A field that is neither skipped nor renamed, so its name is left to the convention. -/
structure LeftToRule : Prop where
  kept : ¬field.Skipped
  silent : ∀ argument ∈ givenArguments field.attributes, argument.name ≠ "rename"

instance decidableLeftToRule : Decidable field.LeftToRule :=
  decidable_of_iff
    (¬field.Skipped ∧ ∀ argument ∈ givenArguments field.attributes, argument.name ≠ "rename")
    ⟨fun ⟨kept, silent⟩ => ⟨kept, silent⟩, fun left => ⟨left.kept, left.silent⟩⟩

end FieldDescription

/-- A field name without the mark that lets a keyword be a name. -/
def unmarked (name : List Char) : List Char :=
  if ['r', '#'] <+: name then name.drop 2 else name

/-- The key that a convention makes, or the name itself without a convention. -/
def writtenKey (rule : Option SerializerRule) (field : FieldDescription) : String :=
  let plain := unmarked field.name.toList
  String.ofList (rule.elim plain fun rule => rule.apply plain)

/-- The keys that the serializer writes for fields, in order. -/
inductive Writes (rule : Option SerializerRule) :
    List FieldDescription → List String → Prop where
  | nil : Writes rule [] []
  | skipped {field : FieldDescription} {fields : List FieldDescription} {keys : List String} :
      field.Skipped → Writes rule fields keys → Writes rule (field :: fields) keys
  | renamed {field : FieldDescription} {fields : List FieldDescription} {keys : List String}
      {key : String} :
      ¬field.Skipped → field.Renamed key → Writes rule fields keys →
        Writes rule (field :: fields) (key :: keys)
  | ruled {field : FieldDescription} {fields : List FieldDescription} {keys : List String}
      {key : String} :
      field.LeftToRule → writtenKey rule field = key → Writes rule fields keys →
        Writes rule (field :: fields) (key :: keys)

/-- A structure with named fields and with attributes for the serializer only. -/
structure SerializerOnly (description : TypeDescription) : Prop where
  named : description.kind = .named
  type : ForSerializer description.attributes "rename_all"
  fields : ∀ field ∈ description.fields, ForSerializer field.attributes "rename"

instance decidableSerializerOnly (description : TypeDescription) :
    Decidable (SerializerOnly description) :=
  decidable_of_iff
    (description.kind = .named ∧ ForSerializer description.attributes "rename_all" ∧
      ∀ field ∈ description.fields, ForSerializer field.attributes "rename")
    ⟨fun ⟨named, type, fields⟩ => ⟨named, type, fields⟩,
      fun accepted => ⟨accepted.named, accepted.type, accepted.fields⟩⟩

/-! ## Reading the attributes -/

/-- The text that arguments assign to a key. -/
def assignedText? (arguments : List Argument) (key : String) : Option String :=
  arguments.findSome? fun
    | .assigned name (.text value) => if name = key then some value else none
    | _ => none

theorem serializerText?_eq_assignedText? (attributes : List Attribute) (key : String) :
    serializerText? attributes key = assignedText? (serializerArguments attributes) key := rfl

section

variable {arguments : List Argument} {key value : String}

theorem mem_of_assignedText? (assigned : assignedText? arguments key = some value) :
    .assigned key (.text value) ∈ arguments := by
  obtain ⟨argument, present, taken⟩ := List.exists_of_findSome?_eq_some assigned
  split at taken
  · split at taken
    · rename_i same
      cases taken
      cases same
      exact present
    · cases taken
  · cases taken

theorem assignedText?_of_silent (silent : ∀ argument ∈ arguments, argument.name ≠ key) :
    assignedText? arguments key = none := by
  rw [Option.eq_none_iff_forall_ne_some]
  intro value assigned
  exact silent _ (mem_of_assignedText? assigned) rfl

theorem assignedText?_of_unique (present : .assigned key (.text value) ∈ arguments)
    (unique : ∀ argument ∈ arguments, argument.name = key →
      argument = .assigned key (.text value)) :
    assignedText? arguments key = some value := by
  cases assigned : assignedText? arguments key with
  | none =>
      have missed := List.findSome?_eq_none_iff.1 assigned _ present
      simp at missed
  | some text =>
      cases unique _ (mem_of_assignedText? assigned) rfl
      rfl

end

theorem mapM_check {arguments : List Argument}
    (readable : ∀ argument ∈ arguments, isArgumentName argument.name) :
    arguments.mapM Argument.check = .ok arguments := by
  induction arguments with
  | nil => rfl
  | cons argument rest ih =>
      obtain ⟨first, others⟩ := List.forall_mem_cons.1 readable
      have checked : argument.check = .ok argument := if_pos first
      rw [List.mapM_cons, checked, ih others]
      rfl

theorem readOwn_of_notOwn {α : Type} {attributes : List Attribute}
    (notOwn : ∀ given ∈ attributes, given.path ≠ ownPath) (empty : α)
    (take : α → Argument → Except Fault α) : readOwn empty take attributes = .ok empty := by
  have none : attributes.filter (fun given => given.path == ownPath) = [] := by
    rw [List.filter_eq_nil_iff]
    intro given member
    simpa using notOwn given member
  rw [readOwn, none]
  rfl

namespace ForSerializer

variable {attributes : List Attribute} {name : String}

/-- Nothing is passed over. -/
theorem serializerArguments_eq (accepted : ForSerializer attributes name) :
    serializerArguments attributes = givenArguments attributes := by
  simp only [serializerArguments, givenArguments, beq_eq_decide]
  refine List.flatMap_congr ?_
  intro given member
  obtain ⟨present, path⟩ := List.mem_filter.1 member
  obtain ⟨has, readable⟩ := accepted.readable given present (by simpa using path)
  obtain ⟨arguments, written⟩ := Option.isSome_iff_exists.1 has
  rw [written, Option.getD_some] at readable
  have read : given.read = .ok arguments := by
    rw [Attribute.read, written]
    exact mapM_check readable
  rw [read, written]
  rfl

theorem serializerText?_of_assigned (accepted : ForSerializer attributes name) {text : String}
    (assigned : .assigned name (.text text) ∈ givenArguments attributes) :
    serializerText? attributes name = some text := by
  rw [serializerText?_eq_assignedText?, accepted.serializerArguments_eq]
  refine assignedText?_of_unique assigned ?_
  intro argument present same
  exact accepted.once argument present _ assigned same rfl

theorem serializerText?_of_silent (accepted : ForSerializer attributes name)
    (silent : ∀ argument ∈ givenArguments attributes, argument.name ≠ name) :
    serializerText? attributes name = none := by
  rw [serializerText?_eq_assignedText?, accepted.serializerArguments_eq]
  exact assignedText?_of_silent silent

end ForSerializer

/-- The library's convention for one of the serializer's. There is none for capitals
with dashes. -/
def SerializerRule.known? : SerializerRule → Option NamingRule
  | lower => some .lower
  | upper => some .upper
  | pascal => some .pascal
  | camel => some .camel
  | snake => some .snake
  | screamingSnake => some .screamingSnake
  | kebab => some .kebab
  | screamingKebab => none

@[simp] theorem SerializerRule.ofName?_name (rule : SerializerRule) :
    NamingRule.ofName? rule.name = rule.known? := by
  cases rule <;> decide

theorem typeOptions_of_asksFor {attributes : List Attribute} {rule : Option SerializerRule}
    (accepted : ForSerializer attributes "rename_all") (asks : AsksFor attributes rule) :
    typeOptions attributes = .ok { rule := rule.bind SerializerRule.known? } := by
  rw [typeOptions, readOwn_of_notOwn accepted.notOwn]
  cases asks with
  | none silent =>
      rw [accepted.serializerText?_of_silent silent]
      rfl
  | some rule assigned =>
      rw [accepted.serializerText?_of_assigned assigned, Option.bind_some, rule.ofName?_name]
      rfl

theorem fieldOptions_of_forSerializer {attributes : List Attribute}
    (accepted : ForSerializer attributes "rename") :
    fieldOptions attributes = .ok
      { skip := (givenArguments attributes).contains (.word "skip")
        rename := serializerText? attributes "rename" } := by
  rw [fieldOptions, readOwn_of_notOwn accepted.notOwn, accepted.serializerArguments_eq]
  rfl

/-! ## Declared names -/

theorem plainName_eq (name : String) : plainName name = unmarked name.toList := by
  rw [plainName, unmarked]
  split
  · rename_i plain shape
    have marked : ['r', '#'] <+: 'r' :: '#' :: plain := ⟨plain, rfl⟩
    rw [shape, if_pos marked]
    rfl
  · rename_i bare
    rw [if_neg]
    rintro ⟨plain, shape⟩
    exact bare plain shape.symm

/-- The record name that a declaration gives to a field that is left to the convention. -/
def declaredKey (rule : Option NamingRule) (field : FieldDescription) : String :=
  let plain := unmarked field.name.toList
  String.ofList (rule.elim plain fun rule => rule.apply plain)

/-- The constant of a field. -/
def constantOf (field : FieldDescription) : String :=
  String.ofList (constantName (unmarked field.name.toList))

section

variable {field : FieldDescription} (rule : Option NamingRule)

theorem declareField_of_skipped (accepted : ForSerializer field.attributes "rename")
    (skipped : field.Skipped) : declareField rule field = .ok none := by
  rw [declareField, fieldOptions_of_forSerializer accepted, List.contains_iff_mem.2 skipped]
  rfl

theorem contains_skip_of_kept (kept : ¬field.Skipped) :
    (givenArguments field.attributes).contains (.word "skip") = false := by
  rw [← Bool.not_eq_true, List.contains_iff_mem]
  exact kept

theorem declareField_of_renamed (accepted : ForSerializer field.attributes "rename")
    (kept : ¬field.Skipped) {key : String} (renamed : field.Renamed key) :
    declareField rule field = .ok (some (constantOf field, key)) := by
  rw [declareField, fieldOptions_of_forSerializer accepted, contains_skip_of_kept kept,
    accepted.serializerText?_of_assigned renamed, plainName_eq]
  rfl

theorem declareField_of_leftToRule (accepted : ForSerializer field.attributes "rename")
    (left : field.LeftToRule) :
    declareField rule field = .ok (some (constantOf field, declaredKey rule field)) := by
  rw [declareField, fieldOptions_of_forSerializer accepted, contains_skip_of_kept left.kept,
    accepted.serializerText?_of_silent left.silent, plainName_eq]
  cases rule <;> rfl

end

/-! ## Where the conventions agree -/

/-- A name for which both conventions make one key. In camel case the first letter has
to be small as it is, and an underscore must not stand before a letter at the start. In
capitals with dashes nothing must be left to do. -/
def Agrees : Option SerializerRule → List Char → Prop
  | some .camel, plain => ∀ first ∈ plain.find? (· ≠ '_'),
      ¬first.isUpper ∧ (plain.head? = some '_' → ¬first.isLower)
  | some .screamingKebab, plain => ∀ character ∈ plain, character ≠ '_' ∧ ¬character.isLower
  | _, _ => True

-- The instances are named: the ones found first run through all characters there are.
instance decidableAgrees : ∀ (rule : Option SerializerRule) (plain : List Char),
    Decidable (Agrees rule plain)
  | some .camel, plain => Option.decidableForallMem (plain.find? (· ≠ '_'))
  | some .screamingKebab, plain => List.decidableBAll _ plain
  | none, _ | some .lower, _ | some .upper, _ | some .pascal, _ | some .snake, _
  | some .screamingSnake, _ | some .kebab, _ => .isTrue trivial

theorem toUpper_eq_self_iff (character : Char) :
    character.toUpper = character ↔ ¬character.isLower := by
  constructor
  · intro same
    rw [← same, Char.isLower_toUpper_eq_false]
    exact Bool.false_ne_true
  · exact Char.toUpper_eq_of_not_isLower

theorem toLower_eq_self_iff (character : Char) :
    character.toLower = character ↔ ¬character.isUpper := by
  constructor
  · intro same
    rw [← same, Char.isUpper_toLower_eq_false]
    exact Bool.false_ne_true
  · exact Char.toLower_eq_of_not_isUpper

/-- The words of a name from the point of view of a reader in the middle of one. -/
theorem joinWords_eq (capital : Bool) (field : List Char) :
    ∃ first more, Text.pieces '_' field = first :: more ∧
      NamingRule.joinWords capital field =
        (if capital then first.modifyHead Char.toUpper else first) ++
          more.flatMap fun word => word.modifyHead Char.toUpper := by
  induction field generalizing capital with
  | nil => exact ⟨[], [], rfl, by cases capital <;> rfl⟩
  | cons character rest ih =>
      rw [Text.pieces, NamingRule.joinWords]
      split
      · obtain ⟨first, more, pieces, joined⟩ := ih true
        refine ⟨[], Text.pieces '_' rest, rfl, ?_⟩
        rw [joined, pieces]
        cases capital <;> rfl
      · obtain ⟨first, more, pieces, joined⟩ := ih false
        refine ⟨character :: first, more, by rw [pieces], ?_⟩
        rw [joined]
        cases capital <;> rfl

/-- Both read a name in the same words. -/
theorem joinWords_true (field : List Char) :
    NamingRule.joinWords true field = SerializerRule.capitalized field := by
  obtain ⟨first, more, pieces, joined⟩ := joinWords_eq true field
  rw [joined, SerializerRule.capitalized, pieces]
  rfl

/-- The first letter of the words in a row. -/
theorem head?_joinWords_true (field : List Char) :
    (NamingRule.joinWords true field).head? = (field.find? (· ≠ '_')).map Char.toUpper := by
  induction field with
  | nil => rfl
  | cons character rest ih =>
      rw [NamingRule.joinWords]
      by_cases underscore : character = '_'
      · simp [underscore, ih]
      · simp [underscore]

theorem modifyHead_eq_self_iff {α : Type} (change : α → α) (list : List α) :
    list.modifyHead change = list ↔ ∀ first, list.head? = some first → change first = first := by
  cases list <;> simp

/-- Behind an underscore the first letter is a capital for the one, and small for the
other. -/
theorem camel_eq_iff_of_underscore (rest : List Char) :
    NamingRule.joinWords true rest = (NamingRule.joinWords true rest).modifyHead Char.toLower ↔
      ∀ first ∈ rest.find? (· ≠ '_'), ¬first.isUpper ∧ ¬first.isLower := by
  have letter (first : Char) :
      first.toUpper.toLower = first.toUpper ↔ ¬first.isUpper ∧ ¬first.isLower := by
    rw [toLower_eq_self_iff, Char.isUpper_toUpper_eq_isAlpha, Char.isAlpha, Bool.or_eq_true,
      not_or]
  rw [eq_comm, modifyHead_eq_self_iff, head?_joinWords_true]
  constructor
  · intro unchanged first found
    exact (letter first).1 (unchanged first.toUpper (by rw [found]; rfl))
  · intro unchanged capital found
    obtain ⟨first, present, rfl⟩ := Option.map_eq_some_iff.1 found
    exact (letter first).2 (unchanged first present)

theorem camel_eq_iff (plain : List Char) :
    NamingRule.joinWords false plain = SerializerRule.apply .camel plain ↔
      Agrees (some .camel) plain := by
  rw [SerializerRule.apply, ← joinWords_true]
  cases plain with
  | nil => simp [NamingRule.joinWords, Agrees]
  | cons character rest =>
      rw [NamingRule.joinWords, NamingRule.joinWords]
      by_cases underscore : character = '_'
      · rw [if_pos underscore, if_pos underscore, camel_eq_iff_of_underscore]
        simp [Agrees, underscore]
      · rw [if_neg underscore, if_neg underscore]
        have small : character = character.toUpper.toLower ↔ ¬character.isUpper := by
          rw [eq_comm, Char.toLower_toUpper_eq_toLower, toLower_eq_self_iff]
        have found : (character :: rest).find? (· ≠ '_') = some character := by
          simp [underscore]
        show character :: _ = character.toUpper.toLower :: _ ↔ _
        rw [List.cons_eq_cons, and_iff_left rfl, small, Agrees, found]
        constructor
        · rintro lower first ⟨⟩
          exact ⟨lower, fun starts => absurd (Option.some.inj starts) underscore⟩
        · intro agrees
          exact (agrees character rfl).1

theorem toUpper_eq_underscore_iff (character : Char) :
    character.toUpper = '_' ↔ character = '_' := by
  constructor
  · intro capital
    by_cases small : character.isLower
    · have upper := Char.isUpper_toUpper_eq_isAlpha character
      rw [capital, Char.isAlpha, small, Bool.or_true] at upper
      cases upper
    · rwa [Char.toUpper_eq_of_not_isLower small] at capital
  · rintro rfl
    rfl

theorem screamingKebab_eq_iff (plain : List Char) :
    plain = SerializerRule.apply .screamingKebab plain ↔ Agrees (some .screamingKebab) plain := by
  have letter (character : Char) :
      (if character.toUpper = '_' then '-' else character.toUpper) = character ↔
        character ≠ '_' ∧ ¬character.isLower := by
    by_cases underscore : character = '_'
    · subst underscore
      decide
    · rw [if_neg (mt (toUpper_eq_underscore_iff character).1 underscore), toUpper_eq_self_iff]
      exact (and_iff_right underscore).symm
  have fixed := List.map_inj_left (l := plain) (g := id)
    (f := fun character => if character.toUpper = '_' then '-' else character.toUpper)
  rw [List.map_id] at fixed
  rw [eq_comm, SerializerRule.apply, SerializerRule.dashed, List.map_map, Agrees]
  exact fixed.trans (forall₂_congr fun character _ => letter character)

/-- The declared name of a field is the key that is written where the conventions agree. -/
theorem declaredKey_eq_writtenKey_iff (rule : Option SerializerRule) (field : FieldDescription) :
    declaredKey (rule.bind SerializerRule.known?) field = writtenKey rule field ↔
      Agrees rule (unmarked field.name.toList) := by
  rw [declaredKey, writtenKey, String.ofList_inj]
  rcases rule with _ | (_ | _ | _ | _ | _ | _ | _ | _)
  case some.pascal => exact iff_of_true (joinWords_true _) trivial
  case some.camel => exact camel_eq_iff _
  case some.screamingKebab => exact screamingKebab_eq_iff _
  all_goals exact iff_of_true rfl trivial

/-! ## Declarations -/

theorem exists_mapM_declareField {rule : Option SerializerRule} {fields : List FieldDescription}
    {keys : List String} (writes : Writes rule fields keys)
    (accepted : ∀ field ∈ fields, ForSerializer field.attributes "rename") :
    ∃ constants,
      fields.mapM (declareField (rule.bind SerializerRule.known?)) = .ok constants ∧
        ((constants.filterMap id).map Prod.snd = keys ↔
          ∀ field ∈ fields, field.LeftToRule → Agrees rule (unmarked field.name.toList)) := by
  induction writes with
  | nil => exact ⟨[], rfl, by simp⟩
  | skipped skipped _ ih =>
      obtain ⟨first, others⟩ := List.forall_mem_cons.1 accepted
      obtain ⟨constants, declared, agree⟩ := ih others
      refine ⟨none :: constants, ?_, ?_⟩
      · rw [List.mapM_cons, declareField_of_skipped _ first skipped, declared]
        rfl
      · rw [List.forall_mem_cons]
        refine Iff.trans agree (iff_and_self.2 ?_)
        intro _ left
        exact absurd skipped left.kept
  | @renamed field fields keys key kept renamed _ ih =>
      obtain ⟨first, others⟩ := List.forall_mem_cons.1 accepted
      obtain ⟨constants, declared, agree⟩ := ih others
      refine ⟨some (constantOf field, key) :: constants, ?_, ?_⟩
      · rw [List.mapM_cons, declareField_of_renamed _ first kept renamed, declared]
        rfl
      · rw [List.filterMap_cons_some (f := id) rfl, List.map_cons, List.cons_eq_cons,
          and_iff_right rfl, List.forall_mem_cons]
        refine agree.trans (iff_and_self.2 ?_)
        intro _ left
        exact absurd rfl (left.silent _ renamed)
  | @ruled field fields keys key left written _ ih =>
      subst written
      obtain ⟨first, others⟩ := List.forall_mem_cons.1 accepted
      obtain ⟨constants, declared, agree⟩ := ih others
      refine ⟨some (constantOf field, declaredKey (rule.bind SerializerRule.known?) field) ::
        constants, ?_, ?_⟩
      · rw [List.mapM_cons, declareField_of_leftToRule _ first left, declared]
        rfl
      · rw [List.filterMap_cons_some (f := id) rfl, List.map_cons, List.cons_eq_cons,
          List.forall_mem_cons, agree, declaredKey_eq_writtenKey_iff]
        exact and_congr_left fun _ => ⟨fun agrees _ => agrees, fun agrees => agrees left⟩

/-- A structure that is described to the serializer only can be declared. Its declared
fields are the keys that the serializer writes, in order, exactly if the conventions
agree on the name of every field that is left to them. -/
theorem fields_follow_serializer_iff {description : TypeDescription}
    {rule : Option SerializerRule} {keys : List String} (accepted : SerializerOnly description)
    (asks : AsksFor description.attributes rule)
    (writes : Writes rule description.fields keys) :
    ∃ declaration, ofType description = .ok declaration ∧
      (declaration.fields = keys ↔
        ∀ field ∈ description.fields, field.LeftToRule →
          Agrees rule (unmarked field.name.toList)) := by
  obtain ⟨constants, declared, agree⟩ := exists_mapM_declareField writes accepted.fields
  refine ⟨⟨description.name, constants.filterMap id⟩, ?_, agree⟩
  rw [ofType, typeOptions_of_asksFor accepted.type asks, accepted.named]
  show (description.fields.mapM (declareField (rule.bind SerializerRule.known?))).bind _ = _
  rw [declared]
  rfl

/-- In camel case, with an underscore left out in several places, a name that is a keyword,
a field that is renamed and one that is skipped. -/
theorem fields_follow_serializer_camelCase :
    let serde (arguments : List Argument) : List Attribute := [⟨"serde", some arguments⟩]
    let description : TypeDescription :=
      { name := "Order"
        kind := .named
        attributes := serde [.assigned "rename_all" (.text "camelCase")]
        fields := [⟨"id", serde [.word "default"]⟩, ⟨"total__amount_", []⟩, ⟨"r#type", []⟩,
          ⟨"line_2b", []⟩, ⟨"legacy", serde [.assigned "rename" (.text "_Old")]⟩,
          ⟨"cache", serde [.word "skip"]⟩] }
    let keys := ["id", "totalAmount", "type", "line2b", "_Old"]
    SerializerOnly description ∧ AsksFor description.attributes (some .camel) ∧
      Writes (some .camel) description.fields keys ∧
      ∃ declaration, ofType description = .ok declaration ∧ declaration.fields = keys := by
  intro serde description keys
  have accepted : SerializerOnly description := by decide +kernel
  have asks : AsksFor description.attributes (some .camel) := .some .camel (by decide +kernel)
  have writes : Writes (some .camel) description.fields keys := by
    refine .ruled (by decide +kernel) (by decide +kernel) ?_
    refine .ruled (by decide +kernel) (by decide +kernel) ?_
    refine .ruled (by decide +kernel) (by decide +kernel) ?_
    refine .ruled (by decide +kernel) (by decide +kernel) ?_
    refine .renamed (by decide +kernel) (by decide +kernel) ?_
    exact .skipped (by decide +kernel) .nil
  have agrees : ∀ field ∈ description.fields, field.LeftToRule →
      Agrees (some .camel) (unmarked field.name.toList) := by
    decide +kernel
  obtain ⟨declaration, declared, follows⟩ := fields_follow_serializer_iff accepted asks writes
  exact ⟨accepted, asks, writes, declaration, declared, follows.2 agrees⟩

/-- In camel case an underscore at the start makes the first letter a capital, and small
letters with underscores stay as they are where the serializer writes capitals with
dashes. -/
theorem not_fields_follow_serializer :
    let row (rule : SerializerRule) (field : String) : TypeDescription :=
      ⟨"Row", .named, [⟨"serde", some [.assigned "rename_all" (.text rule.name)]⟩], [⟨field, []⟩]⟩
    let follows (rule : SerializerRule) (field declared written : String) :=
      SerializerOnly (row rule field) ∧ AsksFor (row rule field).attributes (some rule) ∧
        Writes (some rule) (row rule field).fields [written] ∧
        (ofType (row rule field)).toOption.map Declaration.fields = some [declared]
    follows .camel "_field" "Field" "field" ∧
      follows .screamingKebab "total_amount" "total_amount" "TOTAL-AMOUNT" := by
  intro row follows
  refine ⟨⟨by decide +kernel, .some .camel (by decide +kernel), ?_, by decide +kernel⟩,
    by decide +kernel, .some .screamingKebab (by decide +kernel), ?_, by decide +kernel⟩
  · exact .ruled (by decide +kernel) (by decide +kernel) .nil
  · exact .ruled (by decide +kernel) (by decide +kernel) .nil

end RecordQuery.Declaration
