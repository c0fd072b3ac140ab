import RecordQuery.Proofs.FilterCalls
import RecordQuery.Proofs.PathText
import RecordQuery.Proofs.QueryAnswer
import RecordQuery.Proofs.StoreKeys

/-!
# Looking up rows by id

What a filter on the id field selects in a store that calls have filled, and what
the commands that rest on such filters answer: looking up a row by a text, and
creating a row with a given id.
-/

namespace RecordQuery

/-! ## The id field as a path -/

/-- Settings that tell the managed fields apart, with an id field that a path can
name. -/
structure Settings.Regular (settings : Settings) : Prop where
  idField_ne_createdAt : settings.idField ≠ settings.createdAtField
  idField_ne_updatedAt : settings.idField ≠ settings.updatedAtField
  createdAt_ne_updatedAt : settings.createdAtField ≠ settings.updatedAtField
  idField_ne_empty : settings.idField ≠ ""
  dot_notMem_idField : '.' ∉ settings.idField.toList

theorem Settings.Regular.parse_idField {settings : Settings} (regular : settings.Regular) :
    Path.parse settings.idField = ⟨[settings.idField]⟩ :=
  Path.parse_of_notMem regular.idField_ne_empty regular.dot_notMem_idField

theorem Settings.Regular.default : Settings.Regular {} :=
  ⟨by decide, by decide, by decide, by decide, by decide⟩

/-- The filter that lookups by id use: the id field holds a value equal to `id`. -/
def Settings.idEquals (settings : Settings) (id : Value) : Filter :=
  .condition (.of (.parse settings.idField) .eq id)

/-- A row satisfies the filter if its id is equal to the given one. -/
theorem Filter.allHold_idEquals {settings : Settings} (regular : settings.Regular) (id : Value)
    (row : Record) :
    Filter.allHold row [settings.idEquals id] = (Record.id settings row).any (·.equal id) := by
  have resolved : (Path.resolve ⟨[settings.idField]⟩ row).leaves = [Record.id settings row] := by
    simp only [Path.resolve, Record.id]
    cases row.get? settings.idField <;> rfl
  simp only [allHold, Filter.holds, Settings.idEquals, Condition.of, Condition.holds,
    regular.parse_idField, resolved, Bool.and_true]
  cases Record.id settings row <;> simp [Condition.matchesLeaf, Condition.matchesValue]

/-- Only a text is equal to a text. -/
theorem Value.equal_text {value : Value} {text : String} :
    value.equal (.text text) ↔ value = .text text := by
  cases value <;> simp [equal]

/-! ## Stores that calls have filled -/

/-- Memory adapters that calls have brought to their present state, from an empty
store. Each call draws from some supply whose next unique text is not empty. -/
inductive Adapter.Reachable (settings : Settings) : Adapter → Prop where
  | empty (sorter : Sorter) : Reachable settings { store := { settings, sorter } }
  | call {adapter : Adapter} (request : AdapterRequest) (supply : Supply) :
      Reachable settings adapter → supply.id ≠ "" →
        Reachable settings (request.perform adapter supply).2.1

theorem AdapterRequest.perform_kind (request : AdapterRequest) (adapter : Adapter)
    (supply : Supply) (memory : adapter.kind = .memory) :
    (request.perform adapter supply).2.1.kind = .memory := by
  cases request with
  | data call =>
      obtain ⟨tables, changed⟩ := call.perform_frame adapter supply
      show (call.perform adapter supply).2.1.kind = .memory
      rw [changed]
      exact memory
  | begin => exact (congrArg (·.2.kind) (Adapter.begin_of_memory memory)).trans memory
  | commit => exact (congrArg (·.2.kind) (Adapter.commit_of_memory memory)).trans memory
  | rollback => exact (congrArg (·.2.kind) (Adapter.rollback_of_memory memory)).trans memory
  | clear => exact memory

namespace Adapter.Reachable

variable {settings : Settings} {adapter : Adapter}

/-- Calls in a row, whether they succeed or fail, lead on. -/
theorem runAll (reachable : Reachable settings adapter) {supply : Supply}
    (drawn : ∀ draw, supply.idAt draw ≠ "") (requests : List AdapterRequest) :
    Reachable settings (AdapterRequest.runAll requests adapter supply).1 := by
  induction requests generalizing adapter supply with
  | nil => exact reachable
  | cons request rest ih =>
      have drawnAfter : ∀ draw, (request.perform adapter supply).2.2.idAt draw ≠ "" := by
        rw [request.perform_idAt]
        exact drawn
      exact ih (reachable.call request supply (drawn supply.idsDrawn)) drawnAfter

theorem memory (reachable : Reachable settings adapter) : adapter.kind = .memory := by
  induction reachable with
  | empty => rfl
  | call request supply _ _ ih => exact request.perform_kind _ supply ih

theorem settings_eq (reachable : Reachable settings adapter) :
    adapter.store.settings = settings := by
  induction reachable with
  | empty => rfl
  | call request supply _ _ ih => exact (request.perform_step _ supply).settings_eq.trans ih

theorem wellKeyed (reachable : Reachable settings adapter) (regular : settings.Regular) :
    adapter.store.WellKeyed := by
  induction reachable with
  | empty => exact .of_closed rfl nofun
  | call request supply before drawn ih =>
      have apart := regular.idField_ne_updatedAt
      rw [← before.settings_eq] at apart
      exact (request.perform_step _ supply).wellKeyed apart drawn ih

/-- The rows of an entity fit the keys that they are stored under. -/
theorem table (reachable : Reachable settings adapter) (regular : settings.Regular)
    (entity : String) : Table.WellKeyed settings (adapter.store.table entity) :=
  reachable.settings_eq ▸ (reachable.wellKeyed regular).table entity

end Adapter.Reachable

theorem Record.Fits.exists_id {settings : Settings} {key : String} {row : Record}
    (fits : row.Fits settings key) : ∃ id, Record.id settings row = some id := by
  have present := fits.hasId
  rw [Record.hasId] at present
  cases held : Record.id settings row with
  | none =>
      rw [held] at present
      cases present
  | some id => exact ⟨id, rfl⟩

/-- The key of a row is the text of its id. -/
theorem Record.Fits.idText_eq {settings : Settings} {key : String} {row : Record} {id : Value}
    (fits : row.Fits settings key) (held : Record.id settings row = some id) :
    Leaf.idText (some id) = key := by
  rw [← held]
  exact fits.key_eq

/-- Looking up a text finds the row under that key if its id is the text, and
nothing otherwise. -/
theorem Store.found_text {settings : Settings} {store : Store} {entity : String}
    (wellKeyed : Table.WellKeyed settings (store.table entity)) (regular : settings.Regular)
    (text : String) :
    store.found entity [settings.idEquals (.text text)] =
      match (store.table entity).get? text with
      | some row => if Record.id settings row = some (.text text) then [(text, row)] else []
      | none => [] := by
  have selected (row : Record) :
      Filter.allHold row [settings.idEquals (.text text)] ↔
        Record.id settings row = some (.text text) := by
    rw [Filter.allHold_idEquals regular]
    cases Record.id settings row <;> simp [Value.equal_text]
  rw [found, Keyed.filter_eq_of_key wellKeyed.distinct text]
  · cases (store.table entity).get? text with
    | none => rfl
    | some row => simp [List.filter_cons, selected]
  · intro entry member kept
    have fits := wellKeyed.fits entry.1 entry.2 member
    rw [← fits.key_eq, Record.key, (selected entry.2).1 kept]
    rfl

/-! ## Commands -/

theorem Adapter.queryFirst_of_memory {adapter : Adapter} (memory : adapter.kind = .memory)
    (spec : QuerySpec) (supply : Supply) :
    Adapter.queryFirst spec adapter supply =
      (.ok (adapter.store.query spec.firstRow).data.head?, adapter, supply) := by
  simp [queryFirst, reading, memory, AdapterKind.refuses]

theorem Adapter.create_of_memory {adapter : Adapter} (memory : adapter.kind = .memory)
    (spec : CreateSpec) (supply : Supply) :
    Adapter.create spec adapter supply =
      let (answer, store) := adapter.store.create spec supply.id supply.time
      let drawn := if adapter.store.needsId spec then supply.afterId else supply
      (answer, { adapter with store }, drawn.afterTime) := by
  simp [create, memory, AdapterKind.refuses]

/-- A plain query answers with what is found as it is. -/
theorem Store.data_query_plain (store : Store) (entity : String) (filters : List Filter) :
    (store.query { entity, filters }).data = store.matching entity filters := by
  have whole : Record.project store.settings [] = id := by
    funext row
    simp [Record.project]
  simp [query, QueryResult.of, Window.apply, Window.limit?, Window.offset, whole]

namespace Session

variable {α : Type} (session : Session) (entity : Entity α) {world : World}

theorem compile_byId (regular : session.settings.Regular) (text : String) :
    session.compile entity (session.byId text) =
      .ok { entity := entity.name, filters := [session.settings.idEquals (.text text)] } := by
  have sound : (session.rules entity).conditionProblem?
      (.of (.parse session.settings.idField) .eq (.text text)) = none := by
    simp [FieldRules.conditionProblem?, Condition.problem?, Condition.fault?, Condition.of,
      FieldRules.pathProblem?, FieldRules.knows, Path.isEmpty, Path.root?, Session.rules,
      Settings.managed, regular.parse_idField]
  simp only [Session.rules] at sound
  simp [compile, QueryBuilder.compile, byId, FilterSet.andWhere, FilterSet.push, rejectIf,
    FilterSet.problem?, FieldRules.filtersProblem?, Filter.conditionsOf, Filter.conditions,
    QueryBuilder.window, QuerySpec.problem?, FieldRules.orderProblem?, FieldRules.selectProblem?,
    Session.rules, Settings.idEquals, sound, bind, Except.bind, pure, Except.pure]

/-- Looking up a row by a text answers with the row under that key, if its id is
the text. Nothing is changed. -/
theorem runOn_findById (regular : session.settings.Regular)
    (reachable : world.activeAdapter.Reachable session.settings) (text : String) :
    (session.findById entity text).runOn world =
      (match (world.activeAdapter.store.table entity.name).get? text with
        | some row =>
            if Record.id session.settings row = some (.text text) then
              (entity.fromRecord row).map some
            else .ok none
        | none => .ok none,
        world.setAdapter world.active world.activeAdapter) := by
  have found := Store.found_text (reachable.table regular entity.name) regular text
  have called := Adapter.queryFirst_of_memory reachable.memory
    { entity := entity.name, filters := [session.settings.idEquals (.text text)] } world.supply
  rw [Store.head?_query_firstRow, Store.data_query_plain, Store.matching_eq, found] at called
  simp only [findById, first, session.compile_byId entity regular text, called,
    Engine.runOn_bind, Engine.runOn_ofExcept, Engine.runOn_call]
  cases (world.activeAdapter.store.table entity.name).get? text with
  | none => simp
  | some row => by_cases same : Record.id session.settings row = some (.text text) <;> simp [same]

end Session

end RecordQuery
