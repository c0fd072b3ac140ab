import RecordQuery.Proofs.Saving

/-!
# Saving twice

A save of a value without an id stores a new row and answers with it. Saving the
answer finds that row by its fresh id, has no child left to complete, and writes
back what the row holds already, so that only the time of modification changes.
-/

namespace RecordQuery

variable {α : Type}

/-- An entity that reads every record whose fields are distinct, and writes back
what it has read. -/
def Entity.Lossless (entity : Entity α) : Prop :=
  ∀ record : Record, record.WellFormed →
    ∃ value, entity.decode? (.object record) = some value ∧
      entity.encode value = .ok (.object record)

theorem Entity.Lossless.fromRecord {entity : Entity α} (lossless : entity.Lossless)
    {record : Record} (wellFormed : record.WellFormed) :
    ∃ value, entity.fromRecord record = .ok value ∧ entity.encode value = .ok (.object record) := by
  obtain ⟨value, decoded, encoded⟩ := lossless record wellFormed
  exact ⟨value, by rw [Entity.fromRecord, decoded], encoded⟩

/-! ## Complete rows -/

/-- A row under a key in which nothing is left to fill in: its id is the key, it has
a creation time and distinct fields, and its children have ids. -/
structure Record.Complete (settings : Settings) (key : String) (row : Record) : Prop where
  id_eq : Record.id settings row = some (.text key)
  hasId : Record.hasId settings row
  created : ¬Leaf.isNullish (row.get? settings.createdAtField)
  wellFormed : row.WellFormed
  identified : row.ChildrenIdentified settings

theorem Session.complete_freshRow {session : Session} {entity : Entity α} {supply : Supply}
    {record : Record} (regular : session.settings.Regular) (drawn : supply.id ≠ "")
    (absent : ¬Record.hasId session.settings record) (wellFormed : record.WellFormed)
    (identified : record.ChildrenIdentified session.settings) :
    (session.freshRow entity supply record).Complete session.settings
      (Record.key session.settings (session.freshRow entity supply record)) where
  id_eq := id_freshRow regular.idField_ne_createdAt.symm absent
  hasId := hasId_freshRow drawn
  created := not_isNullish_freshRow
  wellFormed := wellFormed_freshRow wellFormed
  identified := childrenIdentified_freshRow identified

/-! ## Saving what is stored -/

/-- Writing a row's own fields back, with a new time of modification, changes the
row in that time only. -/
theorem Record.patched_apply {settings : Settings} (regular : settings.Regular) {row : Record}
    (distinct : Keyed.Distinct row) (selection : Selection) (stamp now : String) :
    Record.patched settings now
        (selection.apply settings (Keyed.put row settings.updatedAtField (.text stamp))) row =
      Keyed.put row settings.updatedAtField (.text stamp) := by
  let stamped := Keyed.put row settings.updatedAtField (.text stamp)
  have held : stamped.get? settings.updatedAtField = some (.text stamp) := by
    simp [stamped]
  have selected : (settings.updatedAtField, .text stamp) ∈ selection.apply settings stamped :=
    List.mem_filter.2 ⟨Keyed.mem_of_get? held, by simp⟩
  have brought : (selection.apply settings stamped).has settings.updatedAtField :=
    (Keyed.has_iff_mem_keys _ _).2 (List.mem_map_of_mem selected)
  rw [Record.patched, if_pos brought]
  apply Keyed.overlay_eq_put
  · rintro ⟨field, value⟩ written
    have kept := (List.mem_filter.1 (List.mem_filter.1 written).1).1
    exact Keyed.get?_of_mem (Keyed.distinct_put distinct _ _) kept
  · refine List.mem_map_of_mem (List.mem_filter.2 ⟨selected, ?_⟩)
    simp [regular.createdAt_ne_updatedAt.symm, regular.idField_ne_updatedAt.symm]

/-- Looking up the key of a complete row answers with what the row decodes to. -/
theorem Session.findById_complete {session : Session} {entity : Entity α} {world : World}
    (regular : session.settings.Regular)
    (reachable : world.activeAdapter.Reachable session.settings) {row : Record} {key : String}
    (complete : row.Complete session.settings key)
    (placed : (world.activeAdapter.store.table entity.name).get? key = some row) {saved : α}
    (decoded : entity.fromRecord row = .ok saved) :
    ((session.findById entity key).runOn world).1 = .ok (some saved) := by
  rw [session.runOn_findById entity regular reachable, placed]
  simp only [complete.id_eq, if_true, decoded]
  rfl

/-- Saving what a complete row decodes to succeeds and stamps the row. -/
theorem Session.runOn_save_complete {session : Session} {entity : Entity α} (world : World)
    (regular : session.settings.Regular)
    (reachable : world.activeAdapter.Reachable session.settings) (lossless : entity.Lossless)
    {row : Record} {key : String} (complete : row.Complete session.settings key)
    (placed : (world.activeAdapter.store.table entity.name).get? key = some row) {saved : α}
    (encoded : entity.encode saved = .ok (.object row)) {selection : Selection}
    (sound : session.selectionProblem? entity selection = none) :
    let stamped := Keyed.put row session.settings.updatedAtField (.text world.supply.time)
    ∃ resaved, entity.encode resaved = .ok (.object stamped) ∧
      (session.save entity saved selection).runOn world =
        (.ok resaved,
          world.withStore (world.activeAdapter.store.setTable entity.name
            ((world.activeAdapter.store.table entity.name).put key stamped))
            world.supply.afterTime.afterTime) := by
  intro stamped
  have wellKeyed := reachable.table regular entity.name
  have found := Store.found_text wellKeyed regular key
  rw [placed] at found
  simp only [complete.id_eq, if_true] at found
  have changed : world.activeAdapter.store.update
      (session.savingUpdate entity selection (.text key) stamped) world.supply.afterTime.time =
        (1, world.activeAdapter.store.setTable entity.name
          ((world.activeAdapter.store.table entity.name).put key stamped)) := by
    rw [Store.update_of_found_singleton _ _ wellKeyed.distinct found, reachable.settings_eq]
    simp only [savingUpdate, stamped, Record.patched_apply regular complete.wellFormed.distinct]
  obtain ⟨resaved, decoded, reencoded⟩ := lossless.fromRecord
    (complete.wellFormed.put session.settings.updatedAtField (.text world.supply.time))
  refine ⟨resaved, reencoded, ?_⟩
  rw [runOn_save world sound encoded, if_pos complete.hasId,
    assignChildIds_of_identified complete.identified,
    runOn_saveStored world reachable.memory _ complete.id_eq regular.idField_ne_updatedAt]
  simp only [stamped] at changed
  simp only [changed, decoded]
  rfl

/-! ## Saving for the first time -/

/-- Saving a value without an id, the id drawn for it being free, stores a complete
row and answers with what the row decodes to. -/
theorem Session.runOn_save_new {session : Session} {entity : Entity α} (world : World)
    (regular : session.settings.Regular)
    (reachable : world.activeAdapter.Reachable session.settings) (lossless : entity.Lossless)
    (drawn : ∀ draw, world.supply.idAt draw ≠ "") {aggregate : α} {fields : Record}
    (encoded : entity.encode aggregate = .ok (.object fields)) (wellFormed : fields.WellFormed)
    (absent : ¬Record.hasId session.settings fields) {selection : Selection}
    (sound : session.selectionProblem? entity selection = none) :
    let store := world.activeAdapter.store
    let table := store.table entity.name
    let completed := assignChildIds session.settings world.supply fields
    let row := session.freshRow entity completed.2 completed.1
    let key := Record.key session.settings row
    key ∉ table.keys →
      row.Complete session.settings key ∧
        ∃ saved, entity.fromRecord row = .ok saved ∧ entity.encode saved = .ok (.object row) ∧
          (session.save entity aggregate selection).runOn world =
            (.ok saved, world.withStore (store.setTable entity.name (table ++ [(key, row)]))
              completed.2.afterId.afterTime.afterTime) := by
  intro store table completed row key free
  -- The row's id is drawn after those of the children, from the same supply.
  have drawnNext : completed.2.id ≠ "" := drawn_assignChildIds session.settings drawn fields
  have vacant : ¬Record.hasId session.settings completed.1 := by
    rwa [Record.hasId, id_assignChildIds]
  have complete : row.Complete session.settings key :=
    complete_freshRow regular drawnNext vacant (wellFormed_assignChildIds _ wellFormed)
      (childrenIdentified_assignChildIds drawn fields)
  obtain ⟨saved, decoded, reencoded⟩ := lossless.fromRecord complete.wellFormed
  refine ⟨complete, saved, decoded, reencoded, ?_⟩
  rw [runOn_save world sound encoded, if_neg absent,
    runOn_saveFresh world reachable.memory reachable.settings_eq drawnNext vacant free]
  exact congrArg (·, _) decoded

/-- Storing a complete row under a free key is one of the calls that lead on. -/
theorem Adapter.Reachable.create {settings : Settings} {adapter : Adapter}
    (reachable : adapter.Reachable settings) (entity : String) {row : Record} {key : String}
    (complete : row.Complete settings key) (free : key ∉ (adapter.store.table entity).keys)
    {supply : Supply} (drawn : supply.id ≠ "") :
    Adapter.Reachable settings
      { adapter with
        store := adapter.store.setTable entity (adapter.store.table entity ++ [(key, row)]) } := by
  have settings_eq := reachable.settings_eq
  have key_eq : Record.key adapter.store.settings row = key := by
    rw [settings_eq, Record.key, complete.id_eq]
    rfl
  have called := Adapter.create_of_complete reachable.memory entity
    (settings_eq ▸ complete.hasId) (settings_eq ▸ complete.created) (key_eq ▸ free) supply
  have step := reachable.call (.data (.create ⟨entity, row⟩)) supply drawn
  have after : ((AdapterRequest.data (.create ⟨entity, row⟩)).perform adapter supply).2.1 =
      (Adapter.create ⟨entity, row⟩ adapter supply).2.1 := rfl
  rw [after, called, key_eq] at step
  exact step

/-- A save of a value without an id, the id drawn for it being free, appends one row
and answers with it, and looking up its id gives the same answer. Saving the answer
once more succeeds and changes nothing in the store but the row's time of
modification. -/
theorem Session.save_idempotent_upsert (session : Session) (entity : Entity α) (world : World)
    (regular : session.settings.Regular)
    (reachable : world.activeAdapter.Reachable session.settings) (lossless : entity.Lossless)
    (drawn : ∀ draw, world.supply.idAt draw ≠ "") {aggregate : α} {fields : Record}
    (encoded : entity.encode aggregate = .ok (.object fields)) (wellFormed : fields.WellFormed)
    (absent : ¬Record.hasId session.settings fields) (selection reselection : Selection)
    (sound : session.selectionProblem? entity selection = none)
    (resound : session.selectionProblem? entity reselection = none) :
    let store := world.activeAdapter.store
    let table := store.table entity.name
    let completed := assignChildIds session.settings world.supply fields
    let row := session.freshRow entity completed.2 completed.1
    let key := Record.key session.settings row
    key ∉ table.keys →
      let first := (session.save entity aggregate selection).runOn world
      let stamped := row.put session.settings.updatedAtField (.text first.2.supply.time)
      ∃ saved, first.1 = .ok saved ∧ entity.encode saved = .ok (.object row) ∧
        first.2.activeAdapter.store = store.setTable entity.name (table ++ [(key, row)]) ∧
        ((session.findById entity key).runOn first.2).1 = .ok (some saved) ∧
        ∃ resaved, entity.encode resaved = .ok (.object stamped) ∧
          let second := (session.save entity saved reselection).runOn first.2
          second.1 = .ok resaved ∧
            second.2.activeAdapter.store =
              store.setTable entity.name (table ++ [(key, stamped)]) := by
  intro store table completed row key free first stamped
  obtain ⟨complete, saved, decoded, reencoded, saving⟩ := runOn_save_new world regular reachable
    lossless drawn encoded wellFormed absent sound free
  have ran : first = _ := saving
  have after : first.2.activeAdapter = { world.activeAdapter with
      store := store.setTable entity.name (table ++ [(key, row)]) } := by
    rw [ran]
    exact world.activeAdapter_withStore _ _
  -- What is known of the store before holds of the store after, and there the row is found.
  have reached : first.2.activeAdapter.Reachable session.settings := by
    rw [after]
    exact reachable.create entity.name complete free (drawn world.supply.idsDrawn)
  have stored : first.2.activeAdapter.store.table entity.name = table.put key row := by
    simp [after, Keyed.put_of_notMem free]
  have placed : (first.2.activeAdapter.store.table entity.name).get? key = some row := by
    simp [stored]
  obtain ⟨resaved, restamped, again⟩ := runOn_save_complete first.2 regular reached lossless
    complete placed reencoded resound
  refine ⟨saved, by rw [ran], reencoded, by rw [after], ?_, resaved, restamped, by rw [again], ?_⟩
  · exact findById_complete regular reached complete placed decoded
  · rw [again, World.activeAdapter_withStore, stored, Keyed.put_put, Keyed.put_of_notMem free,
      after]
    exact store.setTable_setTable _ _ _

/-- An order without an id, whose item has none either, is saved twice beside another
order. -/
theorem Session.save_idempotent_upsert_order :
    let supply : Supply := ⟨fun draw => if draw = 0 then "c" else "r", fun _ => "t", 0, 0⟩
    let entity : Entity Value := ⟨"Order", [], .ok, some⟩
    let requests : List AdapterRequest := [.data (.create ⟨"Order", [("id", .text "a")]⟩)]
    let adapter := (AdapterRequest.runAll requests { store := { settings := {} } } supply).1
    let world : World := ⟨[("main", adapter)], "main", supply⟩
    let fields : Record := [("items", .list [.object [("sku", .text "s")]])]
    let first := (({} : Session).save entity (.object fields) .whole).runOn world
    ∃ saved, first.1 = .ok saved ∧
      ((({} : Session).findById entity "r").runOn first.2).1 = .ok (some saved) ∧
      ∃ resaved, ((({} : Session).save entity saved (.only ["items"])).runOn first.2).1 =
        .ok resaved := by
  intro supply entity requests adapter world fields
  have drawn : ∀ draw, supply.idAt draw ≠ "" := by
    intro draw
    by_cases first : draw = 0 <;> simp [supply, first]
  have reachable : adapter.Reachable {} := (Adapter.Reachable.empty .placing).runAll drawn requests
  have item : Record.WellFormed [("sku", .text "s")] := Record.WellFormed.nil.put "sku" (.text "s")
  have items : Value.WellFormed (.list [.object [("sku", .text "s")]]) := by
    refine .list ?_
    intro child member
    cases List.mem_singleton.1 member
    exact item
  have wellFormed : fields.WellFormed := Record.WellFormed.nil.put "items" items
  have upserted := save_idempotent_upsert {} entity world .default reachable
    (fun record _ => ⟨.object record, rfl, rfl⟩) drawn rfl wellFormed (by decide) .whole
    (.only ["items"]) rfl rfl (by decide +kernel)
  obtain ⟨saved, answered, _, _, found, resaved, _, again, _⟩ := upserted
  exact ⟨saved, answered, found, resaved, again⟩

end RecordQuery
