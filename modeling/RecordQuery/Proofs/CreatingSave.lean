import RecordQuery.Proofs.Upsert

/-!
# Saves that create

A save of a value without an id fills in an id and a creation time itself, and the adapter
that is handed the row would fill them in as well. Filling in twice is filling in once, so
the save comes to the same as completing the children and creating a row of the outcome.
-/

namespace RecordQuery

variable {α β : Type}

/-! ## Filling in twice -/

namespace Store

variable {store : Store} {unique : String}

/-- What has been filled in is not filled in again, whatever is drawn the second time. -/
theorem prepared_prepared (drawn : unique ≠ "") (spec : CreateSpec) (now later after : String) :
    store.prepared ⟨spec.entity, store.prepared spec unique now⟩ later after =
      store.prepared spec unique now := by
  have fits := store.fits_prepared spec drawn now
  exact prepared_of_complete fits.hasId fits.created spec.entity later after

theorem create_prepared (drawn : unique ≠ "") (spec : CreateSpec) (now later after : String) :
    store.create ⟨spec.entity, store.prepared spec unique now⟩ later after =
      store.create spec unique now := by
  simp only [create, prepared_prepared drawn]

end Store

/-- Handing a memory adapter a row that is filled in has the effect of having it fill in
the row. Only a time more is drawn, and it is not used. -/
theorem Adapter.create_prepared {adapter : Adapter} (memory : adapter.kind = .memory)
    (spec : CreateSpec) (absent : ¬Record.hasId adapter.store.settings spec.data)
    {supply : Supply} (drawn : supply.id ≠ "") :
    Adapter.create ⟨spec.entity, adapter.store.prepared spec supply.id supply.time⟩ adapter
        supply.afterId.afterTime =
      let (answer, after, left) := Adapter.create spec adapter supply
      (answer, after, left.afterTime) := by
  have needed : adapter.store.needsId spec := by
    simpa [Store.needsId] using absent
  have fits := adapter.store.fits_prepared spec drawn supply.time
  rw [create_of_hasId memory _ fits.hasId, adapter.store.create_prepared drawn,
    create_of_memory memory, needed]
  rfl

/-- A row with an id and a creation time is refused if its key is in use. -/
theorem Adapter.create_of_taken {adapter : Adapter} (memory : adapter.kind = .memory)
    (entity : String) {row : Record} (hasId : Record.hasId adapter.store.settings row)
    (created : ¬Leaf.isNullish (row.get? adapter.store.settings.createdAtField))
    (taken : Record.key adapter.store.settings row ∈ (adapter.store.table entity).keys)
    (supply : Supply) :
    Adapter.create ⟨entity, row⟩ adapter supply =
      (.error (.conflict entity (Record.key adapter.store.settings row)), adapter,
        supply.afterTime) := by
  have occupied : (adapter.store.table entity).has (Record.key adapter.store.settings row) := by
    rwa [Keyed.has_iff_mem_keys]
  have refused : adapter.store.create ⟨entity, row⟩ supply.id supply.time =
      (.error (.conflict entity (Record.key adapter.store.settings row)), adapter.store) := by
    simp only [Store.create, Store.prepared_of_complete hasId created]
    rw [if_pos occupied]
  rw [create_of_hasId memory ⟨entity, row⟩ hasId, refused]

/-- A call whose answer is read afterwards. -/
theorem Engine.runOn_call_bind_ofExcept (call : AdapterCall α) (read : α → Except Error β)
    (world : World) (supply : Supply) :
    (Engine.call call >>= fun value => Engine.ofExcept (read value)).runOn { world with supply } =
      ((call world.activeAdapter supply).1.bind read,
        { world.setAdapter world.active (call world.activeAdapter supply).2.1 with
          supply := (call world.activeAdapter supply).2.2 }) := by
  rcases called : call world.activeAdapter supply with ⟨error | value, adapter, left⟩ <;>
    simp [called, Except.bind]

namespace Session

variable {session : Session} {entity : Entity α} {world : World}

/-- The fresh row is what a store with the session's settings would make of the record. -/
theorem freshRow_eq_prepared {store : Store} (settings_eq : store.settings = session.settings)
    (supply : Supply) (record : Record) :
    session.freshRow entity supply record =
      store.prepared ⟨entity.name, record⟩ supply.id supply.time := by
  rw [Store.prepared, settings_eq, freshRow]

theorem runOn_create (fields : Record) :
    (session.create entity (.ok (.object fields))).runOn world =
      (Engine.call (Adapter.create ⟨entity.name, fields⟩) >>=
        fun stored => Engine.ofExcept (entity.fromRecord stored)).runOn world := by
  simp [create]

/-- A record without an id is saved as it is created, but for one time more that is drawn. -/
theorem runOn_saveFresh_eq_create (memory : world.activeAdapter.kind = .memory)
    (settings_eq : world.activeAdapter.store.settings = session.settings) {record : Record}
    (absent : ¬Record.hasId session.settings record) {supply : Supply} (drawn : supply.id ≠ "") :
    (session.saveFresh entity record).runOn { world with supply } =
      let (answer, after) :=
        (session.create entity (.ok (.object record))).runOn { world with supply }
      (answer, { after with supply := after.supply.afterTime }) := by
  have called := Adapter.create_prepared memory ⟨entity.name, record⟩ (settings_eq ▸ absent) drawn
  rw [runOn_saveFresh_eq_call world absent, runOn_create, freshRow_eq_prepared settings_eq,
    Engine.runOn_call_bind_ofExcept, Engine.runOn_call_bind_ofExcept]
  rw [called]

/-- Handing the adapter a fresh row is answered with the row if its key is free, and
otherwise with a conflict. -/
theorem runOn_call_freshRow (memory : world.activeAdapter.kind = .memory)
    (settings_eq : world.activeAdapter.store.settings = session.settings) {supply : Supply}
    (drawn : supply.id ≠ "") (record : Record) (left : Supply) :
    let store := world.activeAdapter.store
    let row := session.freshRow entity supply record
    let key := Record.key session.settings row
    let handed := (Engine.call (Adapter.create ⟨entity.name, row⟩) >>= fun stored =>
      Engine.ofExcept (entity.fromRecord stored)).runOn { world with supply := left }
    if key ∈ (store.table entity.name).keys then
      handed.1 = .error (.conflict entity.name key) ∧ handed.2.activeAdapter.store = store
    else
      handed.1 = entity.fromRecord row ∧
        handed.2.activeAdapter.store =
          store.setTable entity.name (store.table entity.name ++ [(key, row)]) := by
  intro store row key handed
  have ran : handed = _ := Engine.runOn_call_bind_ofExcept _ entity.fromRecord world left
  have active : handed.2.activeAdapter = _ :=
    (congrArg (·.2.activeAdapter) ran).trans (world.adapter_setAdapter_same world.active _)
  have hasId : Record.hasId store.settings row := settings_eq ▸ hasId_freshRow drawn
  have created : ¬Leaf.isNullish (row.get? store.settings.createdAtField) :=
    settings_eq ▸ not_isNullish_freshRow
  have key_eq : Record.key store.settings row = key := by rw [settings_eq]
  split
  · rename_i taken
    have called := Adapter.create_of_taken memory entity.name hasId created (key_eq ▸ taken) left
    rw [key_eq] at called
    rw [active, ran, called]
    exact ⟨rfl, rfl⟩
  · rename_i free
    have called := Adapter.create_of_complete memory entity.name hasId created (key_eq ▸ free) left
    rw [key_eq] at called
    rw [active, ran, called]
    exact ⟨rfl, rfl⟩

/-- Saving a value without an id is, whatever fields of the entity are selected, completing
the children of its record and creating a row of the outcome: the ids and the creation time
being drawn alike, the answer and all adapters afterwards are the same. The save hands the
adapter a row in which the adapter has nothing left to fill in; it is stored and answered
if its key is free, and otherwise there is a conflict and nothing changes. -/
theorem save_eq_create (session : Session) (entity : Entity α) (world : World)
    (memory : world.activeAdapter.kind = .memory)
    (settings_eq : world.activeAdapter.store.settings = session.settings)
    (lossless : entity.Lossless) (drawn : ∀ draw, world.supply.idAt draw ≠ "") {value : α}
    {fields : Record} (encoded : entity.encode value = .ok (.object fields))
    (wellFormed : fields.WellFormed) (absent : ¬Record.hasId session.settings fields)
    (selection : Selection) (sound : session.selectionProblem? entity selection = none) :
    let saved := (session.save entity value selection).runOn world
    let created := (Engine.completeChildren session.settings fields >>= fun completed =>
      session.create entity (.ok (.object completed))).runOn world
    let completed := assignChildIds session.settings world.supply fields
    let row := session.freshRow entity completed.2 completed.1
    let key := Record.key session.settings row
    let store := world.activeAdapter.store
    saved = (created.1, { created.2 with supply := created.2.supply.afterTime }) ∧
      saved = (Engine.call (Adapter.create ⟨entity.name, row⟩) >>= fun stored =>
        Engine.ofExcept (entity.fromRecord stored)).runOn
          { world with supply := completed.2.afterId.afterTime } ∧
      (∀ unique now, store.prepared ⟨entity.name, row⟩ unique now = row) ∧
      if key ∈ (store.table entity.name).keys then
        saved.1 = .error (.conflict entity.name key) ∧ saved.2.activeAdapter.store = store
      else
        (∃ answer, saved.1 = .ok answer ∧ entity.encode answer = .ok (.object row)) ∧
          saved.2.activeAdapter.store =
            store.setTable entity.name (store.table entity.name ++ [(key, row)]) := by
  intro saved created completed row key store
  have drawnNext : completed.2.id ≠ "" := drawn_assignChildIds session.settings drawn fields
  have absentStill : ¬Record.hasId session.settings completed.1 := by
    rwa [Record.hasId, id_assignChildIds]
  have ran : saved = (session.saveFresh entity completed.1).runOn
      { world with supply := completed.2 } :=
    (runOn_save world sound encoded).trans (by rw [if_neg absent])
  have handed : saved = _ := ran.trans (runOn_saveFresh_eq_call world absentStill completed.2)
  have outcome : if key ∈ (store.table entity.name).keys then
        saved.1 = .error (.conflict entity.name key) ∧ saved.2.activeAdapter.store = store
      else
        saved.1 = entity.fromRecord row ∧
          saved.2.activeAdapter.store =
            store.setTable entity.name (store.table entity.name ++ [(key, row)]) := by
    rw [handed]
    exact runOn_call_freshRow memory settings_eq drawnNext completed.1
      completed.2.afterId.afterTime
  have rowWellFormed : row.WellFormed :=
    wellFormed_freshRow (wellFormed_assignChildIds world.supply wellFormed)
  refine ⟨?same, handed, ?nothingLeft, ?effect⟩
  case same => exact ran.trans (runOn_saveFresh_eq_create memory settings_eq absentStill drawnNext)
  case nothingLeft =>
    intro unique now
    apply Store.prepared_of_complete
    · exact settings_eq ▸ hasId_freshRow drawnNext
    · exact settings_eq ▸ not_isNullish_freshRow
  case effect =>
    by_cases taken : key ∈ (store.table entity.name).keys
    · rw [if_pos taken] at outcome ⊢
      exact outcome
    · rw [if_neg taken] at outcome ⊢
      obtain ⟨answered, stored⟩ := outcome
      obtain ⟨answer, decoded, reencoded⟩ := lossless.fromRecord rowWellFormed
      exact ⟨⟨answer, answered.trans decoded, reencoded⟩, stored⟩

/-- An order with an empty id, no creation time but a null, and an item without an id, saved
except for its items: the item is stored with an id like the order. -/
theorem save_eq_create_order :
    let supply : Supply := ⟨fun draw => if draw = 0 then "c" else "r", fun _ => "t", 0, 0⟩
    let entity : Entity Value := ⟨"Order", ["items"], .ok, some⟩
    let world : World := ⟨[("main", { store := { settings := {} } })], "main", supply⟩
    let fields : Record :=
      [("createdAt", .null), ("id", .text ""), ("items", .list [.object [("sku", .text "s")]])]
    let row : Record :=
      [("createdAt", .text "t"), ("id", .text "r"),
        ("items", .list [.object [("sku", .text "s"), ("id", .text "c")]])]
    let saved := (({} : Session).save entity (.object fields) (.except ["items"])).runOn world
    (∃ answer, saved.1 = .ok answer ∧ entity.encode answer = .ok (.object row)) ∧
      saved.2.activeAdapter.store = world.activeAdapter.store.setTable "Order" [("r", row)] := by
  intro supply entity world fields row saved
  have drawn : ∀ draw, supply.idAt draw ≠ "" := by
    intro draw
    by_cases first : draw = 0 <;> simp [supply, first]
  have item : Record.WellFormed [("sku", .text "s")] := Record.WellFormed.nil.put "sku" (.text "s")
  have items : Value.WellFormed (.list [.object [("sku", .text "s")]]) := by
    apply Value.WellFormed.list
    intro child member
    cases List.mem_singleton.1 member
    exact item
  have wellFormed : fields.WellFormed :=
    ((Record.WellFormed.nil.put "createdAt" .null).put "id" (.text "")).put "items" items
  obtain ⟨_, _, _, effect⟩ := save_eq_create {} entity world rfl rfl
    (fun record _ => ⟨.object record, rfl, rfl⟩) drawn rfl wellFormed (by decide)
    (.except ["items"]) (by decide +kernel)
  exact effect

end Session

end RecordQuery
