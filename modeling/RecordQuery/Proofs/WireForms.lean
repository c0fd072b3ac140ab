import RecordQuery.Proofs.PathText
import RecordQuery.Wire.Spec

/-!
# Specifications survive the wire

Each kind of thing has a written form, a reader, and a notion of what is sound: a
path that a text can name, a window of positions. Writing and reading are faithful
when the sound things are read back and nothing else is ever read. Faithfulness goes
from words and texts up to whole specifications, one part of an object at a time.

Filters are the only recursive ones. Writing follows the filter. Reading does not: a
group may hold its members under a name or by position, so soundness of what is read
is an induction on the filter that comes out, with `Filter.ofWire?_cases` telling what
each of its nodes was read from.
-/

namespace RecordQuery

namespace Wire

variable {α : Type}

/-- Writing and reading fit together: what is sound is read back from what is
written, and whatever is read is sound. -/
structure Faithful (write : α → Value) (read : Value → Option α) (sound : α → Prop) : Prop where
  read_write : ∀ thing, sound thing → read (write thing) = some thing
  sound_of_read : ∀ {value : Value} {thing : α}, read value = some thing → sound thing

namespace Faithful

variable {write : α → Value} {read : Value → Option α} {sound : α → Prop}

/-- Whatever can be read is read again from what is written for it. -/
theorem reread (faithful : Faithful write read sound) {value : Value} {thing : α}
    (came : read value = some thing) : read (write thing) = some thing :=
  faithful.read_write thing (faithful.sound_of_read came)

theorem read_required (faithful : Faithful write read sound) (thing : α) (fits : sound thing) :
    required? read (some (write thing)) = some thing :=
  faithful.read_write thing fits

theorem read_defaulted (faithful : Faithful write read sound) (default thing : α)
    (fits : sound thing) : defaulted? read default (some (write thing)) = some thing :=
  faithful.read_write thing fits

theorem sound_of_required (faithful : Faithful write read sound) {part : Leaf} {thing : α}
    (came : required? read part = some thing) : sound thing := by
  obtain ⟨value, -, came⟩ := Option.bind_eq_some_iff.1 came
  exact faithful.sound_of_read came

theorem sound_of_defaulted (faithful : Faithful write read sound) {default thing : α} {part : Leaf}
    (came : defaulted? read default part = some thing) (usual : sound default) : sound thing := by
  cases part with
  | none =>
      cases came
      exact usual
  | some value => exact faithful.sound_of_read came

theorem sound_of_optional (faithful : Faithful write read sound) {part : Leaf}
    {choice : Option α} (came : optional? read part = some choice) :
    ∀ thing ∈ choice, sound thing := by
  unfold optional? at came
  split at came
  · cases came
    nofun
  · cases came
    nofun
  · obtain ⟨thing, thingRead, rfl⟩ := Option.map_eq_some_iff.1 came
    intro other same
    cases same
    exact faithful.sound_of_read thingRead

/-- Null stands for no choice, and so it must not be written for one. -/
theorem read_optional (faithful : Faithful write read sound)
    (visible : ∀ thing, write thing ≠ .null) {choice : Option α}
    (all : ∀ thing ∈ choice, sound thing) :
    optional? read (some (choice.elim .null write)) = some choice := by
  cases choice with
  | none => rfl
  | some thing =>
      have back := faithful.read_write thing (all thing rfl)
      unfold optional?
      split
      · next nothing => cases nothing
      · next hidden => exact absurd (Option.some.inj hidden) (visible thing)
      · next same =>
          cases same
          exact congrArg (Option.map some) back

theorem list (faithful : Faithful write read sound) :
    Faithful (fun things => .list (things.map write)) (list? read)
      fun things => ∀ thing ∈ things, sound thing where
  read_write := by
    intro things all
    show (things.map write).mapM read = some things
    induction things with
    | nil => rfl
    | cons thing rest ih =>
        obtain ⟨first, others⟩ := List.forall_mem_cons.1 all
        simp [faithful.read_write thing first, ih others]
  sound_of_read := by
    intro value things came
    cases value with
    | list items =>
        replace came : items.mapM read = some things := came
        induction items generalizing things with
        | nil =>
            cases came
            nofun
        | cons item rest ih =>
            simp only [List.mapM_cons, Option.bind_eq_bind, Option.bind_eq_some_iff] at came
            obtain ⟨first, firstRead, others, othersRead, same⟩ := came
            cases same
            exact List.forall_mem_cons.2 ⟨faithful.sound_of_read firstRead, ih othersRead⟩
    | _ => cases came

/-- Words are read back if each of them names its own choice. -/
theorem word {name : α → String} {choices : List α}
    (named : ∀ choice, choices.find? (name · == name choice) = some choice) :
    Faithful (fun choice => .text (name choice)) (oneOf? name choices) fun _ => True where
  read_write := fun choice _ => named choice
  sound_of_read := fun _ => trivial

theorem text : Faithful Value.text text? fun _ => True where
  read_write := fun _ _ => rfl
  sound_of_read := fun _ => trivial

/-- A list of texts. -/
theorem texts : Faithful ofTexts (list? text?) fun _ => True where
  read_write := fun things _ => text.list.read_write things fun _ _ => trivial
  sound_of_read := fun _ => trivial

theorem position : Faithful ofPosition position? (· ≤ maxPosition) where
  read_write := by
    intro count fits
    have limit : Number.unsignedLimit = maxPosition + 1 := rfl
    have bound : (count : Int) < Number.unsignedLimit := by omega
    simp [ofPosition, position?, bound]
  sound_of_read := by
    intro value count came
    cases value with
    | number digits =>
        cases digits with
        | int value =>
            obtain ⟨⟨low, high⟩, same⟩ := Option.ite_none_right_eq_some.1 came
            have limit : Number.unsignedLimit = maxPosition + 1 := rfl
            have count_eq : value.toNat = count := Option.some.inj same
            omega
        | float value => cases came
    | _ => cases came

/-- A record is written as an object of its fields. -/
theorem record : Faithful Value.object record? fun _ => True where
  read_write := fun _ _ => rfl
  sound_of_read := fun _ => trivial

end Faithful

end Wire

theorem Path.faithful : Wire.Faithful toWire ofWire? Plain where
  read_write := fun _ plain => congrArg some (parse_display plain)
  sound_of_read := by
    intro value path came
    obtain ⟨text, -, rfl⟩ := Option.map_eq_some_iff.1 came
    exact plain_parse text

theorem Quantifier.faithful :
    Wire.Faithful (fun quantifier => .text quantifier.name) Quantifier.ofWire? fun _ => True :=
  Wire.Faithful.word fun quantifier => by cases quantifier <;> decide

theorem Connective.faithful :
    Wire.Faithful (fun connective => .text connective.name) Connective.ofWire? fun _ => True :=
  Wire.Faithful.word fun connective => by cases connective <;> decide

theorem Operator.faithful :
    Wire.Faithful (fun operator => .text operator.name) Operator.ofWire? fun _ => True :=
  Wire.Faithful.word Operator.ofName?_name

theorem Direction.faithful :
    Wire.Faithful (fun direction => .text direction.name) Direction.ofWire? fun _ => True :=
  Wire.Faithful.word fun direction => by cases direction <;> decide

namespace Condition

/-- A written condition reads as a condition whose field is what its text names. -/
theorem ofWire?_toWire (condition : Condition) :
    ofWire? condition.toWire =
      some { condition with field := .parse condition.field.display } := by
  obtain ⟨field, operator, value, quantifier⟩ := condition
  have fieldRead : Wire.required? Path.ofWire? (some field.toWire) = some (.parse field.display) :=
    rfl
  have operatorRead := Operator.faithful.read_required operator trivial
  cases quantifier with
  | none =>
      simp [toWire, ofWire?, Wire.parts?, partNames, Keyed.get?, Wire.optional?, fieldRead,
        operatorRead]
  | some quantifier =>
      have quantifierRead := Quantifier.faithful.read_write quantifier trivial
      simp [toWire, ofWire?, Wire.parts?, partNames, Keyed.get?, Wire.optional?, fieldRead,
        operatorRead, quantifierRead]

theorem faithful : Wire.Faithful toWire ofWire? (·.field.Plain) where
  read_write := by
    intro condition plain
    rw [ofWire?_toWire, Path.parse_display plain]
  sound_of_read := by
    intro value condition came
    unfold ofWire? at came
    split at came
    · simp only [Option.bind_eq_bind, Option.bind_eq_some_iff] at came
      obtain ⟨field, fieldRead, operator, -, quantifier, -, same⟩ := came
      cases same
      exact Path.faithful.sound_of_required fieldRead
    · cases came

end Condition

namespace Filter

/-- Filters all of whose conditions have fields that a text can name. -/
def Plain (filter : Filter) : Prop := ∀ condition ∈ filter.conditions, condition.field.Plain

theorem plain_condition {comparison : Condition} :
    (condition comparison).Plain ↔ comparison.field.Plain := by
  simp [Plain, conditions]

theorem plain_group {connective : Connective} {members : List Filter} :
    (group connective members).Plain ↔ ∀ filter ∈ members, filter.Plain := by
  simp only [Plain, conditions, conditionsOf_eq_flatMap, List.mem_flatMap]
  exact ⟨fun all filter member condition mentioned => all condition ⟨filter, member, mentioned⟩,
    fun all condition ⟨filter, member, mentioned⟩ => all filter member condition mentioned⟩

/-- A condition is tried first. -/
theorem ofWire?_of_condition {value : Value} {comparison : Condition}
    (came : Condition.ofWire? value = some comparison) :
    ofWire? value = some (.condition comparison) := by
  unfold ofWire?
  split <;> simp [came]

/-- A written condition never reads as a group, whatever its field is. -/
theorem ofWire?_condition (comparison : Condition) :
    ofWire? (condition comparison).toWire =
      some (.condition { comparison with field := .parse comparison.field.display }) :=
  ofWire?_of_condition comparison.ofWire?_toWire

theorem groupOfWire?_condition (comparison : Condition) :
    groupOfWire? (condition comparison).toWire = none := by
  obtain ⟨field, operator, value, quantifier⟩ := comparison
  cases quantifier <;>
    simp [toWire, Condition.toWire, groupOfWire?, Wire.parts?, Keyed.get?, Wire.required?]

/-- A written group has no field, and so it does not read as a condition. -/
theorem condition_ofWire?_group (connective : Connective) (members : List Filter) :
    Condition.ofWire? (group connective members).toWire = none := by
  simp [toWire, Condition.ofWire?, Wire.parts?, Condition.partNames, Keyed.get?, Wire.required?]

mutual

theorem ofWire?_toWire : ∀ {filter : Filter}, filter.Plain → ofWire? filter.toWire = some filter
  | .condition comparison, plain => by
      rw [ofWire?_condition, Path.parse_display (plain_condition.1 plain)]
  | .group connective members, plain => by
      have kind := Connective.faithful.read_required connective trivial
      have read := ofWires?_toWires (plain_group.1 plain)
      have apart := condition_ofWire?_group connective members
      simp only [toWire] at apart ⊢
      simp [ofWire?, apart, groupOf?, Keyed.get?, membersIn?, kind, read]

theorem ofWires?_toWires : ∀ {filters : List Filter}, (∀ filter ∈ filters, filter.Plain) →
    ofWires? (toWires filters) = some filters
  | [], _ => rfl
  | filter :: rest, plain => by
      obtain ⟨first, others⟩ := List.forall_mem_cons.1 plain
      simp [toWires, ofWires?, ofWire?_toWire first, ofWires?_toWires others]

end

theorem group_of_groupOf? {kind : Leaf} {read : Option (List Filter)} {filter : Filter}
    (came : groupOf? kind read = some filter) :
    ∃ connective members, filter = .group connective members ∧ read = some members := by
  obtain ⟨connective, -, rest⟩ := Option.bind_eq_some_iff.1 came
  obtain ⟨members, readMembers, same⟩ := Option.bind_eq_some_iff.1 rest
  cases same
  exact ⟨connective, members, rfl, readMembers⟩

theorem values_of_membersIn? {fields : List (String × Value)} {members : List Filter}
    (came : membersIn? fields = some members) : ∃ values, ofWires? values = some members := by
  induction fields with
  | nil => cases came
  | cons entry rest ih =>
      obtain ⟨key, value⟩ := entry
      unfold membersIn? at came
      split at came
      · cases came
      · next values _ same =>
          cases same
          split at came
          · exact ⟨values, came⟩
          · exact ih came
      · next same =>
          cases same
          split at came
          · cases came
          · exact ih came

/-- A filter that is read is a condition, or a group of filters that are read. -/
theorem ofWire?_cases {value : Value} {filter : Filter} (came : ofWire? value = some filter) :
    (∃ comparison, filter = .condition comparison ∧ Condition.ofWire? value = some comparison) ∨
      ∃ connective members values,
        filter = .group connective members ∧ ofWires? values = some members := by
  unfold ofWire? at came
  split at came
  · split at came
    · next comparison read =>
        cases came
        exact .inl ⟨comparison, rfl, read⟩
    · obtain ⟨connective, members, rfl, read⟩ := group_of_groupOf? came
      obtain ⟨values, read⟩ := values_of_membersIn? read
      exact .inr ⟨connective, members, values, rfl, read⟩
  · split at came
    · next comparison read =>
        cases came
        exact .inl ⟨comparison, rfl, read⟩
    · obtain ⟨connective, members, rfl, read⟩ := group_of_groupOf? came
      exact .inr ⟨connective, members, _, rfl, read⟩
  · obtain ⟨comparison, read, rfl⟩ := Option.map_eq_some_iff.1 came
    exact .inl ⟨comparison, rfl, read⟩

mutual

theorem plain_of_ofWire? : ∀ {filter : Filter} {value : Value},
    ofWire? value = some filter → filter.Plain
  | .condition comparison, value, came => by
      obtain ⟨_, same, read⟩ | ⟨_, _, _, same, _⟩ := ofWire?_cases came
      · cases same
        exact plain_condition.2 (Condition.faithful.sound_of_read read)
      · cases same
  | .group connective members, value, came => by
      obtain ⟨_, same, _⟩ | ⟨_, _, values, same, read⟩ := ofWire?_cases came
      · cases same
      · cases same
        exact plain_group.2 (plain_of_ofWires? read)

theorem plain_of_ofWires? : ∀ {filters : List Filter} {values : List Value},
    ofWires? values = some filters → ∀ filter ∈ filters, filter.Plain
  | [], _, _ => nofun
  | first :: rest, [], came => nomatch came
  | first :: rest, value :: values, came => by
      unfold ofWires? at came
      split at came
      · next firstRead restRead =>
          cases came
          exact List.forall_mem_cons.2 ⟨plain_of_ofWire? firstRead, plain_of_ofWires? restRead⟩
      · cases came

end

theorem faithful_list :
    Wire.Faithful (fun filters => .list (toWires filters)) listOfWire?
      fun filters => ∀ filter ∈ filters, filter.Plain where
  read_write := fun _ => ofWires?_toWires
  sound_of_read := by
    intro value filters came
    cases value with
    | list values => exact plain_of_ofWires? came
    | _ => cases came

end Filter

theorem OrderClause.faithful : Wire.Faithful toWire ofWire? (·.field.Plain) where
  read_write := by
    intro clause plain
    have field := Path.faithful.read_required _ plain
    have direction := Direction.faithful.read_required clause.direction trivial
    simp [toWire, ofWire?, Wire.parts?, Keyed.get?, field, direction]
  sound_of_read := by
    intro value clause came
    unfold ofWire? at came
    split at came
    · simp only [Option.bind_eq_bind, Option.bind_eq_some_iff] at came
      obtain ⟨field, fieldRead, direction, -, same⟩ := came
      cases same
      exact Path.faithful.sound_of_required fieldRead
    · cases came

namespace Window

/-- Windows whose numbers are positions. -/
def Fits : Window → Prop
  | all => True
  | page numbered => numbered.number ≤ maxPosition ∧ numbered.size ≤ maxPosition
  | range skip limit => skip ≤ maxPosition ∧ ∀ count ∈ limit, count ≤ maxPosition

theorem fits_of_pageOfParts? {number size : Leaf} {window : Window}
    (came : (Page.ofParts? number size).map page = some window) : window.Fits := by
  obtain ⟨numbered, parts, rfl⟩ := Option.map_eq_some_iff.1 came
  obtain ⟨first, firstRead, rest⟩ := Option.bind_eq_some_iff.1 parts
  obtain ⟨second, secondRead, same⟩ := Option.bind_eq_some_iff.1 rest
  cases same
  exact ⟨Wire.Faithful.position.sound_of_required firstRead,
    Wire.Faithful.position.sound_of_required secondRead⟩

theorem fits_of_rangeOfParts? {skip limit : Leaf} {window : Window}
    (came : rangeOfParts? skip limit = some window) : window.Fits := by
  obtain ⟨first, firstRead, rest⟩ := Option.bind_eq_some_iff.1 came
  obtain ⟨second, secondRead, same⟩ := Option.bind_eq_some_iff.1 rest
  cases same
  exact ⟨Wire.Faithful.position.sound_of_required firstRead,
    Wire.Faithful.position.sound_of_optional secondRead⟩

theorem faithful : Wire.Faithful toWire ofWire? Fits where
  read_write := by
    intro window fits
    cases window with
    | all => rfl
    | page numbered =>
        have number := Wire.Faithful.position.read_required _ fits.1
        have size := Wire.Faithful.position.read_required _ fits.2
        simp [toWire, ofWire?, Keyed.get?, Page.ofParts?, number, size]
    | range skip limit =>
        have first := Wire.Faithful.position.read_required _ fits.1
        have limited := Wire.Faithful.position.read_optional nofun fits.2
        simp [toWire, ofWire?, Keyed.get?, rangeOfParts?, first, limited]
  sound_of_read := by
    intro value window came
    unfold ofWire? at came
    split at came
    · split at came
      · cases came
        trivial
      · exact fits_of_pageOfParts? came
      · exact fits_of_rangeOfParts? came
      · cases came
    · cases came
      trivial
    · exact fits_of_pageOfParts? came
    · exact fits_of_rangeOfParts? came
    · cases came

end Window

namespace QuerySpec

/-- Queries with paths that a text can name and with positions in the window. -/
structure Plain (spec : QuerySpec) : Prop where
  filters : ∀ filter ∈ spec.filters, filter.Plain
  order : ∀ clause ∈ spec.order, clause.field.Plain
  window : spec.window.Fits

theorem faithful : Wire.Faithful toWire ofWire? Plain where
  read_write := by
    intro spec plain
    have entity := Wire.Faithful.text.read_required spec.entity trivial
    have filters := Filter.faithful_list.read_defaulted [] _ plain.filters
    have relations := Wire.Faithful.texts.read_defaulted [] spec.relations trivial
    have select := Wire.Faithful.texts.read_defaulted [] spec.select trivial
    have order := OrderClause.faithful.list.read_defaulted [] _ plain.order
    have window := Window.faithful.read_defaulted .all _ plain.window
    simp [toWire, ofWire?, Wire.parts?, partNames, Keyed.get?, entity, filters, relations, select,
      order, window]
  sound_of_read := by
    intro value spec came
    unfold ofWire? at came
    split at came
    · simp only [Option.bind_eq_bind, Option.bind_eq_some_iff] at came
      obtain ⟨entity, -, filters, filtersRead, relations, -, select, -, order, orderRead, window,
        windowRead, same⟩ := came
      cases same
      exact {
        filters := Filter.faithful_list.sound_of_defaulted filtersRead nofun
        order := OrderClause.faithful.list.sound_of_defaulted orderRead nofun
        window := Window.faithful.sound_of_defaulted windowRead trivial }
    · cases came

end QuerySpec

theorem CreateSpec.faithful : Wire.Faithful toWire ofWire? fun _ => True where
  read_write := by
    intro spec _
    have entity := Wire.Faithful.text.read_required spec.entity trivial
    have data := Wire.Faithful.record.read_required spec.data trivial
    simp [toWire, ofWire?, Wire.parts?, Keyed.get?, entity, data]
  sound_of_read := fun _ => trivial

theorem UpdateSpec.faithful :
    Wire.Faithful toWire ofWire? fun spec => ∀ filter ∈ spec.filters, filter.Plain where
  read_write := by
    intro spec plain
    have entity := Wire.Faithful.text.read_required spec.entity trivial
    have filters := Filter.faithful_list.read_defaulted [] _ plain
    have patch := Wire.Faithful.record.read_required spec.patch trivial
    simp [toWire, ofWire?, Wire.parts?, Keyed.get?, entity, filters, patch]
  sound_of_read := by
    intro value spec came
    unfold ofWire? at came
    split at came
    · simp only [Option.bind_eq_bind, Option.bind_eq_some_iff] at came
      obtain ⟨entity, -, filters, filtersRead, patch, -, same⟩ := came
      cases same
      exact Filter.faithful_list.sound_of_defaulted filtersRead nofun
    · cases came

theorem DeleteSpec.faithful :
    Wire.Faithful toWire ofWire? fun spec => ∀ filter ∈ spec.filters, filter.Plain where
  read_write := by
    intro spec plain
    have entity := Wire.Faithful.text.read_required spec.entity trivial
    have filters := Filter.faithful_list.read_defaulted [] _ plain
    simp [toWire, ofWire?, Wire.parts?, Keyed.get?, entity, filters]
  sound_of_read := by
    intro value spec came
    unfold ofWire? at came
    split at came
    · simp only [Option.bind_eq_bind, Option.bind_eq_some_iff] at came
      obtain ⟨entity, -, filters, filtersRead, same⟩ := came
      cases same
      exact Filter.faithful_list.sound_of_defaulted filtersRead nofun
    · cases came

/-- Specifications come back from the wire as they were written, when their paths
are such that a text can name them and their windows hold positions. Conditions and
groups are never taken for each other, whatever their paths. What comes from any
value is written in such a way that it comes back. -/
theorem wire_roundTrip :
    (∀ spec : QuerySpec, spec.Plain → QuerySpec.ofWire? spec.toWire = some spec) ∧
      (∀ spec : UpdateSpec, (∀ filter ∈ spec.filters, filter.Plain) →
        UpdateSpec.ofWire? spec.toWire = some spec) ∧
      (∀ spec : DeleteSpec, (∀ filter ∈ spec.filters, filter.Plain) →
        DeleteSpec.ofWire? spec.toWire = some spec) ∧
      (∀ spec : CreateSpec, CreateSpec.ofWire? spec.toWire = some spec) ∧
      (∀ (comparison : Condition) (connective : Connective) (members : List Filter),
        Filter.groupOfWire? (Filter.condition comparison).toWire = none ∧
          Filter.ofWire? (Filter.condition comparison).toWire ≠ some (.group connective members) ∧
          Condition.ofWire? (Filter.group connective members).toWire = none ∧
          Filter.ofWire? (Filter.group connective members).toWire ≠
            some (.condition comparison)) ∧
      (∀ value spec, QuerySpec.ofWire? value = some spec →
        QuerySpec.ofWire? spec.toWire = some spec) ∧
      (∀ value spec, UpdateSpec.ofWire? value = some spec →
        UpdateSpec.ofWire? spec.toWire = some spec) ∧
      (∀ value spec, DeleteSpec.ofWire? value = some spec →
        DeleteSpec.ofWire? spec.toWire = some spec) ∧
      ∀ value spec, CreateSpec.ofWire? value = some spec →
        CreateSpec.ofWire? spec.toWire = some spec := by
  refine ⟨QuerySpec.faithful.read_write, UpdateSpec.faithful.read_write,
    DeleteSpec.faithful.read_write, fun spec => CreateSpec.faithful.read_write spec trivial, ?_,
    fun _ _ => QuerySpec.faithful.reread, fun _ _ => UpdateSpec.faithful.reread,
    fun _ _ => DeleteSpec.faithful.reread, fun _ _ => CreateSpec.faithful.reread⟩
  intro comparison connective members
  refine ⟨Filter.groupOfWire?_condition comparison, ?_,
    Filter.condition_ofWire?_group connective members, ?_⟩
  · rw [Filter.ofWire?_condition]
    nofun
  · intro came
    obtain ⟨_, -, read⟩ | ⟨_, _, _, same, -⟩ := Filter.ofWire?_cases came
    · rw [Filter.condition_ofWire?_group] at read
      cases read
    · cases same

/-- A page of a nested search and an update come back, and so does a deletion that
was first written by position. -/
theorem wire_roundTrip_nestedSearch :
    let search : Filter := .group .or [
      .condition ⟨⟨["tags", "name"]⟩, .like, .text "a", some .all⟩,
      .group .and [.condition ⟨⟨["size"]⟩, .between, .list [.number (.int 1), .null], none⟩]]
    let query : QuerySpec :=
      { entity := "Doc", filters := [search], order := [⟨⟨["title"]⟩, .descending⟩],
        window := .page ⟨2, 10⟩ }
    let update : UpdateSpec := ⟨"Doc", [search], [("title", .text "b")]⟩
    let deletion : DeleteSpec := ⟨"Doc", [search]⟩
    let written : Value := .list [.text "Doc", .list [search.toWire]]
    (query.Plain ∧ QuerySpec.ofWire? query.toWire = some query) ∧
      (search.Plain ∧ UpdateSpec.ofWire? update.toWire = some update) ∧
      (DeleteSpec.ofWire? written = some deletion ∧
        DeleteSpec.ofWire? deletion.toWire = some deletion) := by
  intro search query update deletion written
  obtain ⟨ofQuery, ofUpdate, -, -, -, -, -, ofDeletion, -⟩ := wire_roundTrip
  have plain : search.Plain := by
    simp [search, Filter.plain_group, Filter.plain_condition, Path.Plain]
  have all : ∀ filter ∈ [search], filter.Plain := List.forall_mem_singleton.2 plain
  have queryPlain : query.Plain := {
    filters := all
    order := by unfold Path.Plain; decide
    window := by unfold Window.Fits; decide }
  have deletionRead : DeleteSpec.ofWire? written = some deletion := by rfl
  exact ⟨⟨queryPlain, ofQuery query queryPlain⟩, ⟨plain, ofUpdate update all⟩,
    ⟨deletionRead, ofDeletion written deletion deletionRead⟩⟩

end RecordQuery
