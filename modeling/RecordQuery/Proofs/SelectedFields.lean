import RecordQuery.Proofs.Patching
import RecordQuery.Proofs.Saving

/-!
# Writing the selected fields

A save of a record with an id first completes the record's children and stamps it,
then reduces it to the selected fields, and hands these to the store, which has rules
of its own for the managed fields. Put together, a row with an equal id gets exactly
the selected fields that the record has.
-/

namespace RecordQuery

variable {settings : Settings}

/-! ## Selected fields -/

namespace Selection

/-- A selection reads as the record does at the id, at the time of modification and at
the fields it names, and has no other field. -/
@[simp] theorem get?_apply (selection : Selection) (settings : Settings) (record : Record)
    (field : String) :
    Keyed.get? (selection.apply settings record) field =
      if field = settings.idField ∨ field = settings.updatedAtField ∨ selection.names field then
        record.get? field
      else none := by
  have read := record.get?_filter
    (fun key => key == settings.idField || key == settings.updatedAtField || selection.names key)
    field
  simpa [apply, or_assoc] using read

/-- What a save of a completed record makes of a row with an equal id. A selected field
that the record has is written, and every other field is kept; the time of
modification is the save's own, and the id and the creation time are the row's. The
row's fields stay in their order, before any new ones. -/
structure WritesTo (selection : Selection) (settings : Settings) (stamp : String)
    (completed row changed : Record) : Prop where
  written : ∀ field value, field ∉ settings.managed → selection.names field →
    completed.get? field = some value → changed.get? field = some value
  kept : ∀ field, field ∉ settings.managed →
    (selection.names field → completed.get? field = none) →
      changed.get? field = row.get? field
  updatedAt : changed.get? settings.updatedAtField = some (.text stamp)
  id : Record.id settings changed = Record.id settings row
  createdAt : changed.get? settings.createdAtField = row.get? settings.createdAtField
  order : row.keys <+: changed.keys

theorem get?_apply_put (selection : Selection) (completed : Record) (stamp : Value)
    {field : String} (unmanaged : field ∉ settings.managed) :
    Keyed.get? (selection.apply settings (completed.put settings.updatedAtField stamp)) field =
      if selection.names field then completed.get? field else none := by
  simp only [Settings.managed, List.mem_cons, List.not_mem_nil, or_false, not_or] at unmanaged
  obtain ⟨notId, _, notUpdated⟩ := unmanaged
  simp [get?_apply, notId, notUpdated, Ne.symm notUpdated]

theorem writesTo_patched (regular : settings.Regular) (selection : Selection)
    {completed : Record} (distinct : Keyed.Distinct completed) (stamp now : String)
    (row : Record) :
    selection.WritesTo settings stamp completed row
      (Record.patched settings now
        (selection.apply settings (completed.put settings.updatedAtField (.text stamp))) row) := by
  let patch := selection.apply settings (completed.put settings.updatedAtField (.text stamp))
  have patchDistinct : Keyed.Distinct patch := (Keyed.distinct_put distinct _ _).filter _
  have patched := Record.patchedBy_patched regular.idField_ne_updatedAt.symm
    regular.createdAt_ne_updatedAt.symm patchDistinct now row
  have brought : patch.get? settings.updatedAtField = some (.text stamp) := by
    simp [patch, get?_apply]
  constructor
  case written =>
    intro field value unmanaged named held
    rw [patched.others field unmanaged, get?_apply_put selection completed _ unmanaged,
      if_pos named, held, Option.some_or]
  case kept =>
    intro field unmanaged missing
    have absent : patch.get? field = none := by
      rw [get?_apply_put selection completed _ unmanaged]
      split
      · rename_i named
        exact missing named
      · rfl
    rw [patched.others field unmanaged, absent, Option.none_or]
  case updatedAt => rw [patched.updatedAt, brought, Option.some_or]
  case id => exact patched.id
  case createdAt => exact patched.createdAt
  case order => exact patched.order

end Selection

/-! ## Saves -/

namespace Session

variable {α : Type}

/-- What a save makes of a row: the selected fields are written to it if its id is equal
to the one saved, and it is left as it is if not. -/
def Overwrites (session : Session) (selection : Selection) (stamp : String) (id : Value)
    (completed row changed : Record) : Prop :=
  if (Record.id session.settings row).any (·.equal id) then
    selection.WritesTo session.settings stamp completed row changed
  else changed = row

/-- The store after a save of a value with an id is the store after one update. -/
theorem store_save {session : Session} {entity : Entity α} {selection : Selection}
    (world : World) (regular : session.settings.Regular)
    (memory : world.activeAdapter.kind = .memory)
    (sound : session.selectionProblem? entity selection = none) {value : α} {fields : Record}
    (encoded : entity.encode value = .ok (.object fields)) {id : Value}
    (held : Record.id session.settings fields = some id) (present : Leaf.isPresentId (some id)) :
    let completed := assignChildIds session.settings world.supply fields
    let stamped := completed.1.put session.settings.updatedAtField (.text world.supply.time)
    ((session.save entity value selection).runOn world).2.activeAdapter.store =
      (world.activeAdapter.store.update (session.savingUpdate entity selection id stamped)
        completed.2.afterTime.time).2 := by
  intro completed stamped
  have hasId : Record.hasId session.settings fields := by rwa [Record.hasId, held]
  have completedId := (id_assignChildIds world.supply fields).trans held
  have time_eq := time_assignChildIds session.settings world.supply fields
  rw [runOn_save world sound encoded, if_pos hasId,
    runOn_saveStored world memory _ completedId regular.idField_ne_updatedAt, time_eq,
    World.activeAdapter_withStore]

/-- A save of a value with an id writes exactly the selected fields. The rows of the
entity keep their keys and their order. Those with an equal id get the selected fields
of the value, its children completed, with a fresh time of modification and the id and
creation time that they had; the others, all other tables, the tables kept aside and
the settings are as before. -/
theorem save_writes_selected (session : Session) (entity : Entity α) (world : World)
    (regular : session.settings.Regular) (memory : world.activeAdapter.kind = .memory)
    (shared : world.activeAdapter.store.settings = session.settings) (selection : Selection)
    (sound : session.selectionProblem? entity selection = none) (value : α) {fields : Record}
    (encoded : entity.encode value = .ok (.object fields)) (distinct : Keyed.Distinct fields)
    {id : Value} (held : Record.id session.settings fields = some id)
    (present : Leaf.isPresentId (some id)) :
    let store := world.activeAdapter.store
    let after := ((session.save entity value selection).runOn world).2.activeAdapter.store
    ∃ completed, fields.CompletedTo session.settings world.supply.idAt completed ∧
      Table.RowByRow (session.Overwrites selection world.supply.time id completed)
        (store.table entity.name) (after.table entity.name) ∧
      (∀ other, entity.name ≠ other → after.tables.get? other = store.tables.get? other) ∧
      after.snapshot = store.snapshot ∧ after.settings = store.settings := by
  intro store after
  let completed := assignChildIds session.settings world.supply fields
  let stamped := completed.1.put session.settings.updatedAtField (.text world.supply.time)
  let sent := session.savingUpdate entity selection id stamped
  have updated : after = (store.update sent completed.2.afterTime.time).2 :=
    store_save world regular memory sound encoded held present
  have selects (row : Record) : Filter.allHold row sent.filters =
      (Record.id session.settings row).any (·.equal id) := Filter.allHold_idEquals regular id row
  obtain ⟨tables, frame⟩ := store.update_frame sent completed.2.afterTime.time
  refine ⟨completed.1, completedTo_assignChildIds world.supply fields, ?_, ?_, ?_, ?_⟩
  · rw [updated]
    apply store.rowByRow_update sent
    · intro row holds
      rw [selects] at holds
      rw [Overwrites, if_pos holds, show store.settings = session.settings from shared]
      exact selection.writesTo_patched regular (distinct_assignChildIds _ distinct) _ _ row
    · intro row fails
      rw [selects] at fails
      rw [Overwrites, if_neg fails]
  · intro other apart
    rw [updated]
    exact store.tables_update sent _ apart
  · rw [updated, frame]
  · rw [updated, frame]

/-- Of two documents one is saved with its items only. The item gets an id, the title is
not written, and the listed creation time stays as it was. -/
theorem save_writes_selected_items :
    let supply : Supply := ⟨fun _ => "u", fun _ => "t", 0, 0⟩
    let entity : Entity Value := ⟨"Doc", [], .ok, some⟩
    let first : Record := [("id", .text "1"), ("createdAt", .text "c"), ("title", .text "old")]
    let second : Record := [("id", .text "2"), ("createdAt", .text "c")]
    let adapter : Adapter := { store := { tables := [("Doc", [("1", first), ("2", second)])] } }
    let world : World := ⟨[("main", adapter)], "main", supply⟩
    let fields : Record := [("id", .text "1"), ("title", .text "new"),
      ("items", .list [.object [("sku", .text "s")]]), ("createdAt", .text "x")]
    let selection : Selection := .only ["items", "createdAt"]
    let after := ((({} : Session).save entity (.object fields) selection).runOn
      world).2.activeAdapter.store
    after.table "Doc" =
        [("1", first ++ [("items", .list [.object [("sku", .text "s"), ("id", .text "u")]]),
            ("updatedAt", .text "t")]),
          ("2", second)] ∧
      ∃ completed, fields.CompletedTo {} supply.idAt completed ∧
        Table.RowByRow (({} : Session).Overwrites selection "t" (.text "1") completed)
          (adapter.store.table "Doc") (after.table "Doc") := by
  intro supply entity first second adapter world fields selection after
  constructor
  · decide +kernel
  · obtain ⟨completed, given, rows, -⟩ := save_writes_selected {} entity world .default rfl rfl
      selection rfl (.object fields) rfl (by decide) rfl (by decide)
    exact ⟨completed, given, rows⟩

end Session

end RecordQuery
