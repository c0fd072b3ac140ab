import RecordQuery.Proofs.OwnArguments

/-!
# Arguments spread over attributes

The own arguments of a type or a field can stand together in one attribute, or be spread over
several. What stands before the last own attribute is lost. The declaration is the same as
with all arguments of each item in a single attribute exactly if every lost argument says
what would hold without it.
-/

namespace RecordQuery.Declaration

/-- Attributes with own arguments that are spread, and attributes with the same arguments in
a single one. -/
@[mk_iff]
structure Gathers (means : Argument → Prop) (spread single : List Attribute) : Prop where
  meaningful : Meaningful means spread
  written : ∀ given ∈ ownAttributes single, given.arguments.isSome
  together : (ownAttributes single).length ≤ 1
  arguments : (ownArguments spread).Perm (ownArguments single)
  others : spread.filter (fun given => given.path != ownPath) =
    single.filter fun given => given.path != ownPath

/-- The same field, with own arguments spread and in a single attribute. -/
@[mk_iff]
structure FieldDescription.Gathers (spread single : FieldDescription) : Prop where
  name : spread.name = single.name
  attributes : Declaration.Gathers MeansForField spread.attributes single.attributes

/-- The same type, with the own arguments of each item spread and in a single attribute. -/
@[mk_iff]
structure TypeDescription.Gathers (spread single : TypeDescription) : Prop where
  name : spread.name = single.name
  kind : spread.kind = single.kind
  attributes : Declaration.Gathers MeansForType spread.attributes single.attributes
  fields : List.Forall₂ FieldDescription.Gathers spread.fields single.fields

namespace FieldDescription

/-- A field that no argument skips. -/
def Kept (field : FieldDescription) : Prop :=
  .word "skip" ∉ ownArguments field.attributes ++ serializerArguments field.attributes

/-- A field that no argument skips or renames. -/
@[mk_iff]
structure Unsaid (field : FieldDescription) : Prop where
  kept : field.Kept
  own : assignedText? (ownArguments field.attributes) "rename" = none
  serializer : serializerText? field.attributes "rename" = none

end FieldDescription

/-- Lost arguments make no difference. A lost name is the name of the type, a lost convention
leads to the same record names as the serializer's does, a field whose skip is lost is skipped
by the serializer, and a lost record name is the one that the field has anyway. -/
@[mk_iff]
structure LosesNothing (description : TypeDescription) : Prop where
  name : ∀ value, .assigned "name" (.text value) ∈ lostArguments description.attributes →
    value = description.name
  rule : ∀ rule : NamingRule,
    .assigned "rename_all" (.text rule.name) ∈ lostArguments description.attributes →
      ∀ field ∈ description.fields, field.Unsaid →
        declaredKey (some rule) field =
          declaredKey (serializerRule? description.attributes) field
  skip : ∀ field ∈ description.fields, .word "skip" ∈ lostArguments field.attributes →
    .word "skip" ∈ serializerArguments field.attributes
  rename : ∀ field ∈ description.fields, field.Kept →
    ∀ key, .assigned "rename" (.text key) ∈ lostArguments field.attributes →
      key = (serializerText? field.attributes "rename").getD
        (declaredKey (ruleWith (lastArguments description.attributes) description.attributes)
          field)

/-! ## Deciding whether anything is lost -/

instance decidableMeansForType : DecidablePred MeansForType
  | .word _ | .nested _ | .assigned _ .other => .isFalse nofun
  | .assigned name (.text value) =>
      decidable_of_iff
        (name = "name" ∨ name = "rename_all" ∧ ∃ rule ∈ NamingRule.all, rule.name = value) <| by
        constructor
        · rintro (rfl | ⟨rfl, rule, -, rfl⟩)
          · exact .name value
          · exact .rule rule
        · intro means
          cases means with
          | name => exact .inl rfl
          | rule rule => exact .inr ⟨rfl, rule, by cases rule <;> decide, rfl⟩

instance decidableMeansForField : DecidablePred MeansForField
  | .nested _ | .assigned _ .other => .isFalse nofun
  | .word name => decidable_of_iff (name = "skip") <| by
      constructor
      · rintro rfl
        exact .skip
      · rintro ⟨⟩
        rfl
  | .assigned name (.text value) => decidable_of_iff (name = "rename") <| by
      constructor
      · rintro rfl
        exact .rename value
      · rintro ⟨⟩
        rfl

instance decidableMeaningful (means : Argument → Prop) [DecidablePred means]
    (attributes : List Attribute) : Decidable (Meaningful means attributes) :=
  decidable_of_iff' _ (meaningful_iff means attributes)

instance decidableGathers (means : Argument → Prop) [DecidablePred means]
    (spread single : List Attribute) : Decidable (Gathers means spread single) :=
  decidable_of_iff' _ (gathers_iff means spread single)

instance decidableFieldGathers (spread single : FieldDescription) :
    Decidable (spread.Gathers single) :=
  decidable_of_iff' _ (spread.gathers_iff single)

instance decidableTypeGathers (spread single : TypeDescription) :
    Decidable (spread.Gathers single) :=
  decidable_of_iff' _ (spread.gathers_iff single)

instance decidableKept (field : FieldDescription) : Decidable field.Kept :=
  inferInstanceAs (Decidable
    (.word "skip" ∉ ownArguments field.attributes ++ serializerArguments field.attributes))

instance decidableUnsaid (field : FieldDescription) : Decidable field.Unsaid :=
  decidable_of_iff' _ field.unsaid_iff

instance decidableForallAssigned (arguments : List Argument) (key : String)
    (holds : String → Prop) [DecidablePred holds] :
    Decidable (∀ value, .assigned key (.text value) ∈ arguments → holds value) :=
  decidable_of_iff (∀ argument ∈ arguments, ∀ value ∈ assignedText? [argument] key,
    holds value) <| by
    constructor
    · intro each value present
      exact each _ present value (by simp [assignedText?])
    · intro each argument present value assigned
      rw [← List.mem_singleton.1 (mem_of_assignedText? assigned)] at present
      exact each value present

instance fintypeNamingRule : Fintype NamingRule where
  elems := ⟨NamingRule.all, by decide⟩
  complete rule := by cases rule <;> decide

instance decidableLosesNothing (description : TypeDescription) :
    Decidable (LosesNothing description) :=
  decidable_of_iff' _ (losesNothing_iff description)

/-! ## The same arguments in a single attribute -/

namespace Gathers

variable {means : Argument → Prop} {spread single : List Attribute}

theorem meaningful_single (gathers : Gathers means spread single) : Meaningful means single where
  written := gathers.written
  meant := by
    intro argument present
    exact gathers.meaningful.meant argument (gathers.arguments.mem_iff.2 present)
  once := (gathers.arguments.map Argument.name).nodup_iff.1 gathers.meaningful.once

theorem lastArguments_single (gathers : Gathers means spread single) :
    lastArguments single = ownArguments single := by
  have together := gathers.together
  rw [lastArguments, ownArguments]
  cases own : ownAttributes single with
  | nil => rfl
  | cons given rest =>
      have alone : rest.length = 0 := by simpa [own] using together
      rw [List.length_eq_zero_iff.1 alone]
      rfl

theorem assignedText?_eq (gathers : Gathers means spread single) (key : String) :
    assignedText? (ownArguments spread) key = assignedText? (lastArguments single) key := by
  rw [gathers.lastArguments_single]
  apply Option.ext
  intro value
  rw [assignedText?_eq_some_iff gathers.meaningful.once,
    assignedText?_eq_some_iff gathers.meaningful_single.once, gathers.arguments.mem_iff]

theorem serializerArguments_eq (gathers : Gathers means spread single) :
    serializerArguments spread = serializerArguments single := by
  have foreign (attributes : List Attribute) :
      attributes.filter (fun given => given.path == serializerPath) =
        (attributes.filter fun given => given.path != ownPath).filter
          fun given => given.path == serializerPath := by
    rw [List.filter_filter]
    refine List.filter_congr ?_
    intro given _
    by_cases serializer : given.path = serializerPath
    · simp [serializer, serializerPath, ownPath]
    · simp [serializer]
  rw [serializerArguments, serializerArguments, foreign spread, foreign single, gathers.others]

theorem serializerText?_eq (gathers : Gathers means spread single) (key : String) :
    serializerText? spread key = serializerText? single key := by
  rw [serializerText?, serializerText?, gathers.serializerArguments_eq]

theorem ruleWith_eq (gathers : Gathers means spread single) :
    ruleWith (ownArguments spread) spread = ruleWith (lastArguments single) single := by
  rw [ruleWith, ruleWith, gathers.assignedText?_eq, serializerRule?, serializerRule?,
    gathers.serializerText?_eq]

end Gathers

theorem FieldDescription.Gathers.entryWith_eq {spread single : FieldDescription}
    (gathers : spread.Gathers single) (rule : Option NamingRule) :
    entryWith rule (ownArguments spread.attributes) spread =
      entryWith rule (lastArguments single.attributes) single := by
  have skips :
      .word "skip" ∈ ownArguments spread.attributes ++ serializerArguments spread.attributes ↔
        .word "skip" ∈ lastArguments single.attributes ++
          serializerArguments single.attributes := by
    rw [List.mem_append, List.mem_append, gathers.attributes.lastArguments_single,
      gathers.attributes.arguments.mem_iff, gathers.attributes.serializerArguments_eq]
  simp only [entryWith, constantOf, declaredKey, skips, gathers.name,
    gathers.attributes.assignedText?_eq, gathers.attributes.serializerText?_eq]

section

variable {fields others : List FieldDescription}

theorem filterMap_entryWith_eq (each : List.Forall₂ FieldDescription.Gathers fields others)
    (rule : Option NamingRule) :
    (fields.filterMap fun field => entryWith rule (ownArguments field.attributes) field) =
      others.filterMap fun field => entryWith rule (lastArguments field.attributes) field := by
  induction each with
  | nil => rfl
  | cons same _ ih => rw [List.filterMap_cons, List.filterMap_cons, same.entryWith_eq, ih]

theorem meaningful_of_gathers (each : List.Forall₂ FieldDescription.Gathers fields others) :
    (∀ field ∈ fields, Meaningful MeansForField field.attributes) ∧
      ∀ field ∈ others, Meaningful MeansForField field.attributes := by
  induction each with
  | nil => exact ⟨List.forall_mem_nil _, List.forall_mem_nil _⟩
  | cons same _ ih =>
      exact ⟨List.forall_mem_cons.2 ⟨same.attributes.meaningful, ih.1⟩,
        List.forall_mem_cons.2 ⟨same.attributes.meaningful_single, ih.2⟩⟩

end

/-- With all own arguments of each item in a single attribute, each of them counts. -/
theorem TypeDescription.Gathers.declaredWith_eq {spread single : TypeDescription}
    (gathers : spread.Gathers single) :
    declaredWith ownArguments spread = declaredWith lastArguments single := by
  rw [declaredWith, declaredWith, gathers.attributes.ruleWith_eq,
    gathers.attributes.assignedText?_eq, gathers.name, filterMap_entryWith_eq gathers.fields]

/-! ## Texts and entries without the lost arguments -/

/-- Of two selections from a list, one of which selects wherever the other one does, the
results are the same only if they agree on every item. -/
theorem filterMap_eq_filterMap_iff {α β : Type} {more fewer : α → Option β} {list : List α}
    (covers : ∀ item ∈ list, (fewer item).isSome → (more item).isSome) :
    list.filterMap more = list.filterMap fewer ↔ ∀ item ∈ list, more item = fewer item := by
  induction list with
  | nil => simp
  | cons item rest ih =>
      obtain ⟨first, others⟩ := List.forall_mem_cons.1 covers
      rw [List.forall_mem_cons, ← ih others]
      cases fewerItem : fewer item with
      | some value =>
          obtain ⟨other, moreItem⟩ := Option.isSome_iff_exists.1 (first (by rw [fewerItem]; rfl))
          rw [List.filterMap_cons_some moreItem, List.filterMap_cons_some fewerItem, moreItem,
            List.cons_eq_cons, Option.some_inj]
      | none =>
          rw [List.filterMap_cons_none fewerItem]
          cases moreItem : more item with
          | none => rw [List.filterMap_cons_none moreItem, and_iff_right rfl]
          | some value =>
              -- One item more is selected here, and no fewer are further on.
              rw [List.filterMap_cons_some moreItem]
              have shorter : (rest.filterMap fewer).length ≤ (rest.filterMap more).length := by
                rw [List.length_filterMap_eq_countP, List.length_filterMap_eq_countP]
                exact List.countP_mono_left others
              refine iff_of_false ?_ fun same => Option.some_ne_none _ same.1
              intro same
              rw [← same, List.length_cons] at shorter
              exact Nat.not_succ_le_self _ shorter

section

variable {lost last : List Argument}

/-- Without the lost arguments a key has the same text, with one default or another, exactly if
a lost text is the default, and the defaults are the same where there is no text at all. -/
theorem assignedText?_getD_eq_iff (once : ((lost ++ last).map Argument.name).Nodup)
    (key default other : String) :
    (assignedText? last key).getD default = (assignedText? (lost ++ last) key).getD other ↔
      (∀ value, .assigned key (.text value) ∈ lost → value = default) ∧
        (assignedText? (lost ++ last) key = none → default = other) := by
  have onceLost : (lost.map Argument.name).Nodup :=
    once.sublist ((List.sublist_append_left lost last).map _)
  have texts (value : String) :
      .assigned key (.text value) ∈ lost ↔ assignedText? lost key = some value :=
    (assignedText?_eq_some_iff onceLost).symm
  simp only [texts, assignedText?_append]
  cases isLost : assignedText? lost key with
  | some value =>
      have gone : assignedText? last key = none :=
        assignedText?_of_notMem_names (name_notMem_of_once once (mem_of_assignedText? isLost))
      simp [gone, eq_comm]
  | none => cases assignedText? last key <;> simp

variable {field : FieldDescription} (all : lost ++ last = ownArguments field.attributes)
  (once : ((lost ++ last).map Argument.name).Nodup) (first second : Option NamingRule)

include all once

theorem entryWith_eq_iff_of_kept (kept : field.Kept) :
    entryWith first last field = entryWith second (ownArguments field.attributes) field ↔
      (∀ key, .assigned "rename" (.text key) ∈ lost →
          key = (serializerText? field.attributes "rename").getD (declaredKey first field)) ∧
        (field.Unsaid → declaredKey first field = declaredKey second field) := by
  have notLast : .word "skip" ∉ last ++ serializerArguments field.attributes := by
    intro skipped
    apply kept
    rw [← all, List.append_assoc]
    exact List.mem_append_right lost skipped
  have defaults : (serializerText? field.attributes "rename").getD (declaredKey first field) =
      (serializerText? field.attributes "rename").getD (declaredKey second field) ↔
        (serializerText? field.attributes "rename" = none →
          declaredKey first field = declaredKey second field) := by
    cases serializerText? field.attributes "rename" <;> simp
  rw [entryWith, if_neg notLast, entryWith, if_neg kept, Option.some_inj, Prod.mk_inj,
    and_iff_right rfl, Option.getD_or, Option.getD_or, field.unsaid_iff, and_iff_right kept,
    and_imp, ← defaults, ← all]
  exact assignedText?_getD_eq_iff once "rename" _ _

theorem entryWith_eq_iff_of_not_kept (skipped : ¬field.Kept) :
    entryWith first last field = entryWith second (ownArguments field.attributes) field ↔
      (.word "skip" ∈ lost → .word "skip" ∈ serializerArguments field.attributes) := by
  have present := not_not.1 skipped
  rw [entryWith_eq_none_iff.2 present, entryWith_eq_none_iff]
  rw [← all, List.append_assoc, List.mem_append] at present
  constructor
  · intro found isLost
    refine (List.mem_append.1 found).resolve_left ?_
    intro again
    exact name_notMem_of_once once isLost (List.mem_map_of_mem again)
  · intro serializer
    rcases present with isLost | found
    · exact List.mem_append_right last (serializer isLost)
    · exact found

/-- The entry of a field is the same without the lost arguments exactly if they make no
difference to it. -/
theorem entryWith_eq_iff :
    entryWith first last field = entryWith second (ownArguments field.attributes) field ↔
      (.word "skip" ∈ lost → .word "skip" ∈ serializerArguments field.attributes) ∧
        (field.Kept → ∀ key, .assigned "rename" (.text key) ∈ lost →
          key = (serializerText? field.attributes "rename").getD (declaredKey first field)) ∧
        (field.Unsaid → declaredKey first field = declaredKey second field) := by
  by_cases kept : field.Kept
  · have notLost : .word "skip" ∉ lost := by
      intro isLost
      apply kept
      rw [← all]
      exact List.mem_append_left _ (List.mem_append_left last isLost)
    rw [entryWith_eq_iff_of_kept all once first second kept, forall_prop_of_true kept]
    exact (and_iff_right fun isLost => absurd isLost notLost).symm
  · rw [entryWith_eq_iff_of_not_kept all once first second kept]
    exact (and_iff_left ⟨fun keeps => absurd keeps kept,
      fun unsaid => absurd unsaid.kept kept⟩).symm

end

/-! ## Declarations without the lost arguments -/

section

variable {attributes : List Attribute}

theorem MeansForType.exists_rule {argument : Argument} (means : MeansForType argument)
    (key : argument.name = "rename_all") :
    ∃ rule : NamingRule, argument = .assigned "rename_all" (.text rule.name) := by
  cases means with
  | name value => exact absurd key (by decide : ("name" : String) ≠ "rename_all")
  | rule rule => exact ⟨rule, rfl⟩

theorem ruleWith_of_lost (meaningful : Meaningful MeansForType attributes) {rule : NamingRule}
    (isLost : .assigned "rename_all" (.text rule.name) ∈ lostArguments attributes) :
    ruleWith (lastArguments attributes) attributes = serializerRule? attributes ∧
      ruleWith (ownArguments attributes) attributes = some rule := by
  have own : assignedText? (ownArguments attributes) "rename_all" = some rule.name := by
    rw [assignedText?_eq_some_iff meaningful.once, ← lostArguments_append_lastArguments]
    exact List.mem_append_left _ isLost
  have last : assignedText? (lastArguments attributes) "rename_all" = none :=
    assignedText?_of_notMem_names (name_notMem_of_once meaningful.once_append isLost)
  rw [ruleWith, ruleWith, own, last, Option.bind_some, rule.ofName?_name]
  exact ⟨rfl, rfl⟩

theorem ruleWith_of_none_lost
    (kept : assignedText? (lostArguments attributes) "rename_all" = none) :
    ruleWith (lastArguments attributes) attributes =
      ruleWith (ownArguments attributes) attributes := by
  rw [ruleWith, ruleWith, ← lostArguments_append_lastArguments, assignedText?_append, kept,
    Option.none_or]

/-- A lost convention counts for the fields that no argument skips or renames. -/
theorem declaredKey_ruleWith_iff (meaningful : Meaningful MeansForType attributes)
    (fields : List FieldDescription) :
    (∀ field ∈ fields, field.Unsaid →
      declaredKey (ruleWith (lastArguments attributes) attributes) field =
        declaredKey (ruleWith (ownArguments attributes) attributes) field) ↔
    ∀ rule : NamingRule,
      .assigned "rename_all" (.text rule.name) ∈ lostArguments attributes →
        ∀ field ∈ fields, field.Unsaid →
          declaredKey (some rule) field = declaredKey (serializerRule? attributes) field := by
  constructor
  · intro same rule isLost field present unsaid
    obtain ⟨last, own⟩ := ruleWith_of_lost meaningful isLost
    rw [← last, ← own]
    exact (same field present unsaid).symm
  · intro harmless field present unsaid
    cases assigned : assignedText? (lostArguments attributes) "rename_all" with
    | none => rw [ruleWith_of_none_lost assigned]
    | some value =>
        have isLost := mem_of_assignedText? assigned
        have own := List.mem_append_left (lastArguments attributes) isLost
        rw [lostArguments_append_lastArguments] at own
        obtain ⟨rule, is⟩ := (meaningful.meant _ own).exists_rule rfl
        rw [is] at isLost
        obtain ⟨last, all⟩ := ruleWith_of_lost meaningful isLost
        rw [last, all]
        exact (harmless rule isLost field present unsaid).symm

end

/-- The last own arguments declare the same as all of them exactly if nothing is lost. -/
theorem declaredWith_eq_iff {description : TypeDescription}
    (type : Meaningful MeansForType description.attributes)
    (fields : ∀ field ∈ description.fields, Meaningful MeansForField field.attributes) :
    declaredWith lastArguments description = declaredWith ownArguments description ↔
      LosesNothing description := by
  have names := assignedText?_getD_eq_iff type.once_append "name" description.name description.name
  rw [lostArguments_append_lastArguments] at names
  have entries (field : FieldDescription) (present : field ∈ description.fields) :=
    entryWith_eq_iff (lostArguments_append_lastArguments field.attributes)
      (fields field present).once_append
      (ruleWith (lastArguments description.attributes) description.attributes)
      (ruleWith (ownArguments description.attributes) description.attributes)
  -- Losing arguments can only declare fields that would be skipped.
  have covers : ∀ field ∈ description.fields,
      (entryWith (ruleWith (ownArguments description.attributes) description.attributes)
        (ownArguments field.attributes) field).isSome →
      (entryWith (ruleWith (lastArguments description.attributes) description.attributes)
        (lastArguments field.attributes) field).isSome := by
    intro field _
    rw [← not_imp_not, Option.not_isSome_iff_eq_none, Option.not_isSome_iff_eq_none,
      entryWith_eq_none_iff, entryWith_eq_none_iff, ← lostArguments_append_lastArguments,
      List.append_assoc]
    exact List.mem_append_right _
  rw [declaredWith, declaredWith, Declaration.mk.injEq, names, filterMap_eq_filterMap_iff covers]
  constructor
  · rintro ⟨⟨name, -⟩, same⟩
    have each (field : FieldDescription) (present : field ∈ description.fields) :=
      (entries field present).1 (same field present)
    exact {
      name
      rule := (declaredKey_ruleWith_iff type description.fields).1
        fun field present => (each field present).2.2
      skip := fun field present => (each field present).1
      rename := fun field present => (each field present).2.1 }
  · intro nothing
    have rules := (declaredKey_ruleWith_iff type description.fields).2 nothing.rule
    refine ⟨⟨nothing.name, fun _ => rfl⟩, ?_⟩
    intro field present
    exact (entries field present).2
      ⟨nothing.skip field present, nothing.rename field present, rules field present⟩

/-- A structure whose own arguments are spread over several attributes can be declared, and so
can the one with the arguments of each item in a single attribute. The declarations have the
same name, fields and constants exactly if nothing is lost. No other type can be declared, for
the same reason both ways. -/
theorem spread_declares_same_iff {spread single : TypeDescription}
    (gathers : spread.Gathers single) :
    (spread.kind = .named ∧ ∃ declared together,
      ofType spread = .ok declared ∧ ofType single = .ok together ∧
        (declared = together ↔ LosesNothing spread)) ∨
      (spread.kind ≠ .named ∧ ∃ fault,
        ofType spread = .error fault ∧ ofType single = .error fault) := by
  have type := gathers.attributes.meaningful
  have typeSingle := gathers.attributes.meaningful_single
  obtain ⟨fields, fieldsSingle⟩ := meaningful_of_gathers gathers.fields
  by_cases named : spread.kind = .named
  · have declared := ofType_eq named type fields
    have together := ofType_eq (gathers.kind.symm.trans named) typeSingle fieldsSingle
    rw [← gathers.declaredWith_eq] at together
    exact .inl ⟨named, _, _, declared, together, declaredWith_eq_iff type fields⟩
  · obtain ⟨fault, refused⟩ := exists_fault_of_not_named named
    exact .inr ⟨named, fault, refused rfl type, refused gathers.kind.symm typeSingle⟩

/-- A convention, a skip and a record name are lost that the serializer's attributes repeat,
and a name that is the one of the type. -/
theorem spread_declares_same_repeated :
    let own (arguments : List Argument) : Attribute := ⟨"entity", some arguments⟩
    let serde (arguments : List Argument) : Attribute := ⟨"serde", some arguments⟩
    let name : Argument := .assigned "name" (.text "Order")
    let rule : Argument := .assigned "rename_all" (.text "camelCase")
    let renamed (key : String) : Argument := .assigned "rename" (.text key)
    let spread : TypeDescription :=
      { name := "Order"
        kind := .named
        attributes := [own [name], own [rule], serde [rule], own []]
        fields := [⟨"total_amount", []⟩,
          ⟨"cache", [own [.word "skip"], serde [.word "skip"], own [renamed "cached"]]⟩,
          ⟨"items", [serde [renamed "lines"], own [renamed "lines"], own []]⟩] }
    let single : TypeDescription :=
      { name := "Order"
        kind := .named
        attributes := [serde [rule], own [rule, name]]
        fields := [⟨"total_amount", []⟩,
          ⟨"cache", [own [renamed "cached", .word "skip"], serde [.word "skip"]]⟩,
          ⟨"items", [serde [renamed "lines"], own [renamed "lines"]]⟩] }
    spread.Gathers single ∧ LosesNothing spread ∧
      ∃ declared, ofType spread = .ok declared ∧ ofType single = .ok declared := by
  intro own serde name rule renamed spread single
  have gathers : spread.Gathers single := by decide +kernel
  have nothing : LosesNothing spread := by decide +kernel
  obtain ⟨-, declared, together, apart, one, same⟩ | ⟨other, -⟩ :=
    spread_declares_same_iff gathers
  · rw [← same.2 nothing] at one
    exact ⟨gathers, nothing, declared, apart, one⟩
  · exact absurd rfl other

/-- A name in an attribute before the last one is lost, and a field that is skipped there is
declared. -/
theorem not_spread_declares_same :
    let own (arguments : List Argument) : Attribute := ⟨"entity", some arguments⟩
    let name : Argument := .assigned "name" (.text "orders")
    let rule : Argument := .assigned "rename_all" (.text "PascalCase")
    let renamed : Argument := .assigned "rename" (.text "cached")
    let order (type cache : List Attribute) : TypeDescription :=
      ⟨"Order", .named, type, [⟨"total_amount", []⟩, ⟨"cache", cache⟩]⟩
    let spread := order [own [name], own [rule]] [own [.word "skip"], own [renamed]]
    let single := order [own [name, rule]] [own [.word "skip", renamed]]
    spread.Gathers single ∧
      ofType spread =
        .ok ⟨"Order", [("TOTAL_AMOUNT", "TotalAmount"), ("CACHE", "cached")]⟩ ∧
      ofType single = .ok ⟨"orders", [("TOTAL_AMOUNT", "TotalAmount")]⟩ := by
  intro own name rule renamed order spread single
  exact ⟨by decide +kernel, by decide +kernel, by decide +kernel⟩

end RecordQuery.Declaration
