import RecordQuery.Proofs.AdapterCalls

/-!
# Calls on different entities

A call on the rows of an adapter reads and writes the table of one entity only. So
calls on two entities do not see each other: in either order they answer alike and
leave the same tables, and neither touches a table of another entity.
-/

namespace RecordQuery

/-! ## Steps on one table -/

namespace Keyed

variable {α : Type}

/-- Write an entry, or leave the entries as they are. -/
def putIfSome (entries : Keyed α) (key : String) : Option α → Keyed α
  | some value => entries.put key value
  | none => entries

theorem get?_putIfSome (entries : Keyed α) (key other : String) (written : Option α) :
    (entries.putIfSome key written).get? other =
      if key = other then written.or (entries.get? key) else entries.get? other := by
  cases written with
  | none =>
      split
      · rename_i same
        rw [same]
        rfl
      · rfl
  | some value => exact get?_put entries key other value

theorem get?_putIfSome_of_ne (entries : Keyed α) {key other : String} (apart : key ≠ other)
    (written : Option α) : (entries.putIfSome key written).get? other = entries.get? other := by
  rw [get?_putIfSome, if_neg apart]

end Keyed

namespace Store

variable {α : Type} {store : Store} {entity : String}

/-- A step concerns one entity: all collections of tables that agree on this entity
with those of the store get one answer, and the same table written to them, or none. -/
def Concerns (store : Store) (entity : String) (step : Store → α × Store) : Prop :=
  ∃ answer written, ∀ tables : Keyed Table,
    tables.get? entity = store.tables.get? entity →
      step { store with tables } =
        (answer, { store with tables := tables.putIfSome entity written })

theorem table_of_get? {tables : Keyed Table}
    (same : tables.get? entity = store.tables.get? entity) :
    Store.table { store with tables } entity = store.table entity := by
  rw [table, table, same]

theorem matching_of_get? {tables : Keyed Table}
    (same : tables.get? entity = store.tables.get? entity) (filters : List Filter) :
    Store.matching { store with tables } entity filters = store.matching entity filters := by
  rw [matching, matching, rows, rows, table_of_get? same]

theorem concerns_query (store : Store) (spec : QuerySpec) :
    store.Concerns spec.entity fun store => (store.query spec, store) := by
  refine ⟨store.query spec, none, ?_⟩
  intro tables same
  simp only [query, matching_of_get? same]
  rfl

theorem concerns_queryFirst (store : Store) (spec : QuerySpec) :
    store.Concerns spec.entity
      fun store => ((store.query spec.firstRow).data.head?, store) := by
  obtain ⟨result, written, answered⟩ := store.concerns_query spec.firstRow
  refine ⟨result.data.head?, written, ?_⟩
  intro tables same
  obtain ⟨read, kept⟩ := Prod.mk.inj (answered tables same)
  exact Prod.ext (congrArg (fun result => result.data.head?) read) kept

theorem concerns_count (store : Store) (spec : QuerySpec) :
    store.Concerns spec.entity fun store => (store.count spec, store) := by
  refine ⟨store.count spec, none, ?_⟩
  intro tables same
  simp only [count, matching_of_get? same]
  rfl

theorem concerns_create (store : Store) (spec : CreateSpec) (unique now : String) :
    store.Concerns spec.entity fun store => store.create spec unique now := by
  let row := store.prepared spec unique now
  let key := Record.key store.settings row
  by_cases taken : (store.table spec.entity).has key
  · refine ⟨.error (.conflict spec.entity key), none, ?_⟩
    intro tables same
    simp only [create, table_of_get? same]
    exact if_pos taken
  · refine ⟨.ok row, some ((store.table spec.entity).put key row), ?_⟩
    intro tables same
    simp only [create, table_of_get? same]
    exact if_neg taken

/-- Rewriting the table of an entity, where it has rows, is a step on that table. -/
theorem concerns_rewrite (store : Store) (entity : String) (answer : Table → α)
    (change : Table → Table) :
    store.Concerns entity fun store =>
      (answer (store.table entity),
        if (store.table entity).isEmpty then store
        else store.setTable entity (change (store.table entity))) := by
  by_cases empty : (store.table entity).isEmpty
  · refine ⟨answer (store.table entity), none, ?_⟩
    intro tables same
    simp only [table_of_get? same, if_pos empty]
    rfl
  · refine ⟨answer (store.table entity), some (change (store.table entity)), ?_⟩
    intro tables same
    simp only [table_of_get? same, if_neg empty]
    rfl

theorem concerns_update (store : Store) (spec : UpdateSpec) (now : String) :
    store.Concerns spec.entity fun store => store.update spec now :=
  store.concerns_rewrite spec.entity
    (List.countP fun entry => Filter.allHold entry.2 spec.filters)
    (List.map fun entry =>
      (entry.1, if Filter.allHold entry.2 spec.filters then
        Record.patched store.settings now spec.patch entry.2 else entry.2))

theorem concerns_delete (store : Store) (spec : DeleteSpec) :
    store.Concerns spec.entity fun store => store.delete spec :=
  store.concerns_rewrite spec.entity
    (fun table => table.length -
      (table.filter fun entry => !Filter.allHold entry.2 spec.filters).length)
    (List.filter fun entry => !Filter.allHold entry.2 spec.filters)

end Store

/-! ## Calls on one table -/

namespace Adapter

variable {α β : Type} {adapter : Adapter} {entity : String} {supply : Supply}

/-- A call concerns one entity, as a step of the store does. The answer and the texts
drawn are the same for all collections of tables that agree on this entity. -/
def Concerns (adapter : Adapter) (entity : String) (call : AdapterCall α) (supply : Supply) :
    Prop :=
  ∃ answer written after, ∀ tables : Keyed Table,
    tables.get? entity = adapter.store.tables.get? entity →
      call (adapter.withTables tables) supply =
        (answer, adapter.withTables (tables.putIfSome entity written), after)

/-- A call that is refused, or else takes a step on the table of an entity, concerns
this entity. -/
theorem concerns_of_step {call : AdapterCall α} (operation : AdapterOperation)
    {step : Store → β × Store} (stepConcerns : adapter.store.Concerns entity step)
    (read : β → Except Error α) (after : Supply)
    (called : ∀ tables, call (adapter.withTables tables) supply =
      if adapter.kind.refuses operation then
        (.error operation.failure, adapter.withTables tables, supply)
      else
        (read (step (adapter.withTables tables).store).1,
          { adapter with store := (step (adapter.withTables tables).store).2 }, after)) :
    adapter.Concerns entity call supply := by
  obtain ⟨answer, written, stepped⟩ := stepConcerns
  by_cases refused : adapter.kind.refuses operation
  · refine ⟨.error operation.failure, none, supply, ?_⟩
    intro tables _
    rw [called, if_pos refused]
    rfl
  · refine ⟨read answer, written, after, ?_⟩
    intro tables same
    rw [called, if_neg refused, withTables, stepped tables same]
    rfl

theorem concerns_reading (operation : AdapterOperation) {read : Store → α}
    (readConcerns : adapter.store.Concerns entity fun store => (read store, store)) :
    adapter.Concerns entity (reading operation read) supply := by
  apply concerns_of_step operation readConcerns .ok supply
  intro tables
  have kind_eq : (adapter.withTables tables).kind = adapter.kind := rfl
  simp only [reading, kind_eq]
  split <;> rfl

end Adapter

namespace DataCall

variable {α : Type}

/-- The entity that a call names. -/
def entity : DataCall α → String
  | query spec => spec.entity
  | queryFirst spec => spec.entity
  | count spec => spec.entity
  | create spec => spec.entity
  | update spec => spec.entity
  | delete spec => spec.entity

/-- Every call concerns the entity that it names. -/
theorem concerns_perform (call : DataCall α) (adapter : Adapter) (supply : Supply) :
    adapter.Concerns call.entity call.perform supply := by
  cases call with
  | query spec => exact Adapter.concerns_reading .query (adapter.store.concerns_query spec)
  | queryFirst spec =>
      exact Adapter.concerns_reading .query (adapter.store.concerns_queryFirst spec)
  | count spec => exact Adapter.concerns_reading .count (adapter.store.concerns_count spec)
  | create spec =>
      apply Adapter.concerns_of_step .create
        (adapter.store.concerns_create spec supply.id supply.time) id
        (if adapter.store.needsId spec then supply.afterId else supply).afterTime
      intro tables
      rfl
  | update spec =>
      apply Adapter.concerns_of_step .update
        (adapter.store.concerns_update spec supply.time) .ok supply.afterTime
      intro tables
      rfl
  | delete spec =>
      apply Adapter.concerns_of_step .delete (adapter.store.concerns_delete spec) .ok supply
      intro tables
      rfl

end DataCall

/-! ## Two calls -/

/-- Two adapters are the same, and so are the tables in their stores, in whatever
order these came in. -/
def Adapter.Same (left right : Adapter) : Prop :=
  ∃ tables, right = left.withTables tables ∧
    ∀ entity, tables.get? entity = left.store.tables.get? entity

/-- Two calls that name different entities can be carried out in either order. Each
gives the same answer and draws the same texts, the adapter is the same afterwards,
and no call changes a table that it does not name. -/
theorem DataCall.perform_comm {α β : Type} (first : DataCall α) (second : DataCall β)
    (apart : first.entity ≠ second.entity) (adapter : Adapter) (supply other : Supply) :
    let firstAlone := first.perform adapter supply
    let secondAlone := second.perform adapter other
    let firstAfter := first.perform secondAlone.2.1 supply
    let secondAfter := second.perform firstAlone.2.1 other
    firstAfter.1 = firstAlone.1 ∧ firstAfter.2.2 = firstAlone.2.2 ∧
      secondAfter.1 = secondAlone.1 ∧ secondAfter.2.2 = secondAlone.2.2 ∧
      firstAfter.2.1.Same secondAfter.2.1 ∧
      (∀ entity, first.entity ≠ entity →
        firstAlone.2.1.store.tables.get? entity = adapter.store.tables.get? entity) ∧
      ∀ entity, second.entity ≠ entity →
        secondAlone.2.1.store.tables.get? entity = adapter.store.tables.get? entity := by
  intro firstAlone secondAlone firstAfter secondAfter
  let tables := adapter.store.tables
  obtain ⟨firstAnswer, firstWritten, firstDrawn, firstCalled⟩ :=
    first.concerns_perform adapter supply
  obtain ⟨secondAnswer, secondWritten, secondDrawn, secondCalled⟩ :=
    second.concerns_perform adapter other
  let afterFirst := tables.putIfSome first.entity firstWritten
  let afterSecond := tables.putIfSome second.entity secondWritten
  have aloneFirst : firstAlone = _ := firstCalled tables rfl
  have aloneSecond : secondAlone = _ := secondCalled tables rfl
  -- What one call writes lies outside what the other reads.
  have unseenSecond : afterSecond.get? first.entity = tables.get? first.entity :=
    tables.get?_putIfSome_of_ne apart.symm secondWritten
  have unseenFirst : afterFirst.get? second.entity = tables.get? second.entity :=
    tables.get?_putIfSome_of_ne apart firstWritten
  have laterFirst : firstAfter = (firstAnswer,
      adapter.withTables (afterSecond.putIfSome first.entity firstWritten), firstDrawn) := by
    simp only [firstAfter, aloneSecond]
    exact firstCalled afterSecond unseenSecond
  have laterSecond : secondAfter = (secondAnswer,
      adapter.withTables (afterFirst.putIfSome second.entity secondWritten), secondDrawn) := by
    simp only [secondAfter, aloneFirst]
    exact secondCalled afterFirst unseenFirst
  rw [laterFirst, laterSecond, aloneFirst, aloneSecond]
  refine ⟨rfl, rfl, rfl, rfl, ⟨_, rfl, ?_⟩, ?_, ?_⟩
  · intro entity
    show (afterFirst.putIfSome second.entity secondWritten).get? entity =
      (afterSecond.putIfSome first.entity firstWritten).get? entity
    simp only [Keyed.get?_putIfSome, afterFirst, afterSecond]
    by_cases named : first.entity = entity
    · subst named
      simp [apart.symm]
    · simp [named, apart]
  · intro entity unnamed
    exact tables.get?_putIfSome_of_ne unnamed firstWritten
  · intro entity unnamed
    exact tables.get?_putIfSome_of_ne unnamed secondWritten

/-- A creation that conflicts and one that opens a table, in either order. -/
theorem DataCall.perform_comm_conflict :
    let adapter : Adapter := { store := { tables := [("Item", [("1", [("id", .text "1")])])] } }
    let supply : Supply := ⟨fun _ => "u", fun _ => "t", 0, 0⟩
    let other : Supply := ⟨fun _ => "v", fun _ => "s", 0, 0⟩
    let taken : DataCall Record := .create ⟨"Item", [("id", .text "1"), ("n", .null)]⟩
    let opening : DataCall Record := .create ⟨"Order", [("n", .null)]⟩
    let afterTaken := (taken.perform adapter supply).2.1
    let afterOpening := (opening.perform adapter other).2.1
    taken.entity ≠ opening.entity ∧
      (taken.perform afterOpening supply).1 = .error (.conflict "Item" "1") ∧
      (opening.perform afterTaken other).1 =
        .ok [("n", .null), ("id", .text "v"), ("createdAt", .text "s")] ∧
      (taken.perform afterOpening supply).2.1.Same (opening.perform afterTaken other).2.1 := by
  intro adapter supply other taken opening afterTaken afterOpening
  have apart : taken.entity ≠ opening.entity := by decide
  have conflict : (taken.perform adapter supply).1 = .error (.conflict "Item" "1") := by
    decide +kernel
  have opened : (opening.perform adapter other).1 =
      .ok [("n", .null), ("id", .text "v"), ("createdAt", .text "s")] := by decide +kernel
  obtain ⟨first, -, second, -, same, -⟩ := taken.perform_comm opening apart adapter supply other
  exact ⟨apart, first.trans conflict, second.trans opened, same⟩

end RecordQuery
