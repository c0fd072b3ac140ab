import RecordQuery.Proofs.ChildIds
import RecordQuery.Proofs.Lookup

/-!
# Saving to a memory store

A save of a record with an id patches the rows that have an equal id; a save of a
record without one stores a new row, at the end of its table. Either way the
children get their ids first.
-/

namespace RecordQuery

variable {α : Type}

/-! ## Rows with an id and a creation time -/

theorem Record.id_stampIfAbsent {settings : Settings} {field : String}
    (apart : field ≠ settings.idField) (stamp : String) (record : Record) :
    Record.id settings (Record.stampIfAbsent field stamp record) = Record.id settings record := by
  rw [stampIfAbsent]
  split
  · simp [apart]
  · rfl

theorem Record.stampIfAbsent_of_present {field : String} {record : Record}
    (present : ¬Leaf.isNullish (record.get? field)) (stamp : String) :
    Record.stampIfAbsent field stamp record = record := if_neg present

/-- The row that a record becomes when it is stored for the first time, with an id
and a creation time. -/
def Session.freshRow (session : Session) (entity : Entity α) (supply : Supply)
    (record : Record) : Record :=
  Record.stampIfAbsent session.settings.createdAtField supply.time
    (Record.ensureId session.settings entity.name supply.id record)

namespace Session

variable {session : Session} {entity : Entity α} {supply : Supply} {record : Record}

theorem hasId_freshRow (drawn : supply.id ≠ "") :
    Record.hasId session.settings (session.freshRow entity supply record) :=
  Record.hasId_stampIfAbsent _ _ (Record.hasId_ensureId entity.name drawn record)

theorem not_isNullish_freshRow :
    ¬Leaf.isNullish ((session.freshRow entity supply record).get?
      session.settings.createdAtField) :=
  Record.not_isNullish_stampIfAbsent _ _ _

/-- The fresh row's id is the text drawn for it. -/
theorem id_freshRow (apart : session.settings.createdAtField ≠ session.settings.idField)
    (absent : ¬Record.hasId session.settings record) :
    Record.id session.settings (session.freshRow entity supply record) =
      some (.text (Record.key session.settings (session.freshRow entity supply record))) := by
  have held : Record.id session.settings (session.freshRow entity supply record) =
      some (.text (session.settings.makeId entity.name supply.id)) := by
    simp [freshRow, Record.id_stampIfAbsent apart, Record.ensureId, absent]
  rw [Record.key, held]
  rfl

/-- What writing a text to a field preserves holds of the fresh row, if it holds of
the record. -/
theorem freshRow_induction {property : Record → Prop} (given : property record)
    (put : ∀ (row : Record) (field text : String),
      property row → property (Keyed.put row field (.text text))) :
    property (session.freshRow entity supply record) := by
  have identified :
      property (Record.ensureId session.settings entity.name supply.id record) := by
    rw [Record.ensureId]
    split
    · exact given
    · exact put _ _ _ given
  rw [freshRow, Record.stampIfAbsent]
  split
  · exact put _ _ _ identified
  · exact identified

theorem wellFormed_freshRow (wellFormed : record.WellFormed) :
    (session.freshRow entity supply record).WellFormed :=
  freshRow_induction wellFormed fun _ field text kept => kept.put field (.text text)

theorem childrenIdentified_freshRow
    (identified : record.ChildrenIdentified session.settings) :
    (session.freshRow entity supply record).ChildrenIdentified session.settings :=
  freshRow_induction identified fun _ field text kept => kept.put field text

end Session

/-- In a row with an id and a creation time nothing is filled in. -/
theorem Store.prepared_of_complete {store : Store} {row : Record}
    (hasId : Record.hasId store.settings row)
    (created : ¬Leaf.isNullish (row.get? store.settings.createdAtField))
    (entity unique now : String) : store.prepared ⟨entity, row⟩ unique now = row := by
  rw [prepared, Record.ensureId, if_pos hasId, Record.stampIfAbsent_of_present created]

/-- For a row with an id only a time is drawn. -/
theorem Adapter.create_of_hasId {adapter : Adapter} (memory : adapter.kind = .memory)
    (spec : CreateSpec) (hasId : Record.hasId adapter.store.settings spec.data)
    (supply : Supply) :
    Adapter.create spec adapter supply =
      let (answer, store) := adapter.store.create spec supply.id supply.time
      (answer, { adapter with store }, supply.afterTime) := by
  have needless : adapter.store.needsId spec = false := by
    simp [Store.needsId, hasId]
  rw [create_of_memory memory, needless]
  rfl

/-- A row with an id and a creation time is stored as it is, at the end of its
table, if its key is free. -/
theorem Adapter.create_of_complete {adapter : Adapter} (memory : adapter.kind = .memory)
    (entity : String) {row : Record} (hasId : Record.hasId adapter.store.settings row)
    (created : ¬Leaf.isNullish (row.get? adapter.store.settings.createdAtField))
    (free : Record.key adapter.store.settings row ∉ (adapter.store.table entity).keys)
    (supply : Supply) :
    Adapter.create ⟨entity, row⟩ adapter supply =
      (.ok row,
        { adapter with
          store := adapter.store.setTable entity
            (adapter.store.table entity ++ [(Record.key adapter.store.settings row, row)]) },
        supply.afterTime) := by
  have prepared := Store.prepared_of_complete hasId created entity supply.id supply.time
  have vacant : ¬(adapter.store.table entity).has (Record.key adapter.store.settings row) := by
    rwa [Keyed.has_iff_mem_keys]
  have stored : adapter.store.create ⟨entity, row⟩ supply.id supply.time =
      (.ok row, adapter.store.setTable entity
        (adapter.store.table entity ++ [(Record.key adapter.store.settings row, row)])) := by
    simp only [Store.create, prepared]
    rw [if_neg vacant, Keyed.put_of_notMem free]
  rw [create_of_hasId memory ⟨entity, row⟩ hasId, stored]

/-! ## Worlds with another store -/

/-- The world with another store in the active adapter, and another supply. -/
def World.withStore (world : World) (store : Store) (supply : Supply) : World :=
  { world.setAdapter world.active { world.activeAdapter with store } with supply }

@[simp] theorem World.activeAdapter_withStore (world : World) (store : Store) (supply : Supply) :
    (world.withStore store supply).activeAdapter = { world.activeAdapter with store } :=
  world.adapter_setAdapter_same world.active _

/-! ## Saves -/

namespace Session

variable {session : Session} {entity : Entity α} {selection : Selection} (world : World)

/-- A save that selects a field the entity does not have is rejected. -/
theorem runOn_save_of_problem {error : Error}
    (problem : session.selectionProblem? entity selection = some error) (value : α) :
    (session.save entity value selection).runOn world = (.error error, world) := by
  rw [save, problem]
  rfl

/-- Before a save chooses between patching and storing, the children get ids. -/
theorem runOn_save (sound : session.selectionProblem? entity selection = none) {value : α}
    {fields : Record} (encoded : entity.encode value = .ok (.object fields)) :
    (session.save entity value selection).runOn world =
      (if Record.hasId session.settings fields then
          session.saveStored entity selection
            (assignChildIds session.settings world.supply fields).1
        else
          session.saveFresh entity (assignChildIds session.settings world.supply fields).1).runOn
        { world with supply := (assignChildIds session.settings world.supply fields).2 } := by
  have accepted : rejectIf (session.selectionProblem? entity selection) = .ok () := by
    rw [sound]
    rfl
  have unchanged : Record.hasId session.settings
      (assignChildIds session.settings world.supply fields).1 =
        Record.hasId session.settings fields := by
    rw [Record.hasId, id_assignChildIds, Record.hasId]
  simp [save, saveRecord, accepted, Entity.toRecord_of_encode encoded, unchanged]

/-- A record with an id is written to the rows with an equal id. -/
theorem runOn_saveStored (memory : world.activeAdapter.kind = .memory) (supply : Supply)
    {record : Record} {id : Value} (held : Record.id session.settings record = some id)
    (apart : session.settings.idField ≠ session.settings.updatedAtField) :
    (session.saveStored entity selection record).runOn { world with supply } =
      let stamped := record.put session.settings.updatedAtField (.text supply.time)
      let changed := world.activeAdapter.store.update
        (session.savingUpdate entity selection id stamped) supply.afterTime.time
      (if changed.1 = 0 then .error (.notFound entity.name (Leaf.idText (some id)))
        else entity.fromRecord stamped,
        world.withStore changed.2 supply.afterTime.afterTime) := by
  have kept : Record.id session.settings
      (record.put session.settings.updatedAtField (.text supply.time)) = some id := by
    simpa [apart.symm] using held
  simp only [saveStored, Engine.runOn_bind, Engine.runOn_drawTime, Engine.runOn_call, kept,
    World.activeAdapter_withSupply, Adapter.update_of_memory memory, Option.getD_some]
  split <;> rfl

/-- Of a record without an id the adapter is handed the fresh row, for which an id and a
time are drawn first. -/
theorem runOn_saveFresh_eq_call {record : Record}
    (absent : ¬Record.hasId session.settings record) (supply : Supply) :
    (session.saveFresh entity record).runOn { world with supply } =
      (Engine.call (Adapter.create ⟨entity.name, session.freshRow entity supply record⟩) >>=
        fun stored => Engine.ofExcept (entity.fromRecord stored)).runOn
          { world with supply := supply.afterId.afterTime } := by
  simp [saveFresh, absent, freshRow]

/-- A record without an id becomes a new row, if the id drawn for it is free. -/
theorem runOn_saveFresh (memory : world.activeAdapter.kind = .memory)
    (settings_eq : world.activeAdapter.store.settings = session.settings) {supply : Supply}
    (drawn : supply.id ≠ "") {record : Record} (absent : ¬Record.hasId session.settings record)
    (free : Record.key session.settings (session.freshRow entity supply record) ∉
      (world.activeAdapter.store.table entity.name).keys) :
    (session.saveFresh entity record).runOn { world with supply } =
      (entity.fromRecord (session.freshRow entity supply record),
        world.withStore (world.activeAdapter.store.setTable entity.name
          (world.activeAdapter.store.table entity.name ++
            [(Record.key session.settings (session.freshRow entity supply record),
              session.freshRow entity supply record)]))
          supply.afterId.afterTime.afterTime) := by
  have hasId : Record.hasId session.settings (session.freshRow entity supply record) :=
    hasId_freshRow drawn
  have created : ¬Leaf.isNullish ((session.freshRow entity supply record).get?
      session.settings.createdAtField) := not_isNullish_freshRow
  rw [runOn_saveFresh_eq_call world absent]
  rw [← settings_eq] at hasId created free ⊢
  have called := Adapter.create_of_complete memory entity.name hasId created free
    supply.afterId.afterTime
  simp [called, World.withStore]

end Session

end RecordQuery
