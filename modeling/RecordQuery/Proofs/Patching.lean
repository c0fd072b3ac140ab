import Mathlib.Data.List.Forall2
import RecordQuery.Proofs.AdapterCalls
import RecordQuery.Proofs.StoreKeys
import RecordQuery.Proofs.Tables

/-!
# Patching rows

What an update makes of the rows that it selects, field by field, and what it leaves
alone. The three managed fields follow rules of their own; every other field is
written if the patch has it and kept if not.
-/

namespace RecordQuery

/-! ## One row -/

/-- What a patch makes of a row. The id and the creation time stay, the time of
modification is the patch's or else the stamp, and any other field is the patch's or
else the row's own. The row's fields stay in their order, before any new ones. -/
structure Record.PatchedBy (settings : Settings) (stamp : String) (row patch changed : Record) :
    Prop where
  id : Record.id settings changed = Record.id settings row
  createdAt : changed.get? settings.createdAtField = row.get? settings.createdAtField
  updatedAt : changed.get? settings.updatedAtField =
    (patch.get? settings.updatedAtField).or (some (.text stamp))
  others : ∀ field, field ∉ settings.managed →
    changed.get? field = (patch.get? field).or (row.get? field)
  order : row.keys <+: changed.keys

namespace Record

variable {settings : Settings} {patch : Record}

/-- The part of a patch that is written: all but the id and the creation time. -/
def writable (settings : Settings) (patch : Record) : Record :=
  patch.filter fun (key, _) => key != settings.idField && key != settings.createdAtField

theorem patched_eq (settings : Settings) (stamp : String) (patch row : Record) :
    Record.patched settings stamp patch row =
      if patch.has settings.updatedAtField then row.overlay (patch.writable settings)
      else (row.overlay (patch.writable settings)).put settings.updatedAtField (.text stamp) :=
  rfl

theorem get?_writable (patch : Record) {field : String} (notId : field ≠ settings.idField)
    (notCreated : field ≠ settings.createdAtField) :
    (patch.writable settings).get? field = patch.get? field := by
  have kept := patch.get?_filter
    (fun key => key != settings.idField && key != settings.createdAtField) field
  simpa [writable, notId, notCreated] using kept

/-- Away from the id and the creation time, a patch is written over the row. -/
theorem get?_overlay_writable (distinct : Keyed.Distinct patch) (row : Record) {field : String}
    (notId : field ≠ settings.idField) (notCreated : field ≠ settings.createdAtField) :
    (row.overlay (patch.writable settings)).get? field =
      (patch.get? field).or (row.get? field) := by
  rw [Keyed.get?_overlay (show Keyed.Distinct (patch.writable settings) from distinct.filter _),
    get?_writable patch notId notCreated]

/-- The stamp is what is written to the time of modification, if the patch brings none. -/
theorem get?_patched_updatedAt (notId : settings.updatedAtField ≠ settings.idField)
    (notCreated : settings.updatedAtField ≠ settings.createdAtField)
    (distinct : Keyed.Distinct patch) (stamp : String) (row : Record) :
    (Record.patched settings stamp patch row).get? settings.updatedAtField =
      (patch.get? settings.updatedAtField).or (some (.text stamp)) := by
  rw [patched_eq]
  split
  · -- The patch's own time is among what is written, being no id and no creation time.
    rename_i brought
    obtain ⟨time, held⟩ := Option.isSome_iff_exists.1 brought
    rw [get?_overlay_writable distinct row notId notCreated, held, Option.some_or, Option.some_or]
  · rename_i missing
    simp [Option.not_isSome_iff_eq_none.1 missing]

theorem get?_patched_other (distinct : Keyed.Distinct patch) (stamp : String) (row : Record)
    {field : String} (unmanaged : field ∉ settings.managed) :
    (Record.patched settings stamp patch row).get? field =
      (patch.get? field).or (row.get? field) := by
  simp only [Settings.managed, List.mem_cons, List.not_mem_nil, or_false, not_or] at unmanaged
  obtain ⟨notId, notCreated, notUpdated⟩ := unmanaged
  rw [patched_eq]
  split
  · exact get?_overlay_writable distinct row notId notCreated
  · simpa [Ne.symm notUpdated] using get?_overlay_writable distinct row notId notCreated

theorem keys_prefix_patched (stamp : String) (patch row : Record) :
    row.keys <+: Keyed.keys (Record.patched settings stamp patch row) := by
  rw [patched_eq]
  split
  · exact row.keys_prefix_overlay _
  · exact (row.keys_prefix_overlay _).trans (Keyed.keys_prefix_put _ _ _)

theorem patchedBy_patched (notId : settings.updatedAtField ≠ settings.idField)
    (notCreated : settings.updatedAtField ≠ settings.createdAtField)
    (distinct : Keyed.Distinct patch) (stamp : String) (row : Record) :
    row.PatchedBy settings stamp patch (Record.patched settings stamp patch row) where
  id := by
    rw [Record.id, get?_patched stamp patch row (.inl rfl), Record.id]
    exact if_neg fun both => notId both.1
  createdAt := by
    rw [get?_patched stamp patch row (.inr rfl)]
    exact if_neg fun both => notCreated both.1
  updatedAt := get?_patched_updatedAt notId notCreated distinct stamp row
  others := fun _ unmanaged => get?_patched_other distinct stamp row unmanaged
  order := keys_prefix_patched stamp patch row

end Record

/-! ## The rows of a table -/

/-- Two tables have the same keys in the same order, and each row of the first is in a
relation to the row in its place. -/
def Table.RowByRow (related : Record → Record → Prop) : Table → Table → Prop :=
  List.Forall₂ fun before after => before.1 = after.1 ∧ related before.2 after.2

theorem Table.rowByRow_map {related : Record → Record → Prop} (change : Record → Record)
    (each : ∀ row, related row (change row)) (table : Table) :
    Table.RowByRow related table (table.map fun (key, row) => (key, change row)) := by
  apply List.forall₂_map_right_iff.2
  apply List.forall₂_same.2
  intro entry _
  exact ⟨rfl, each entry.2⟩

/-- What an update makes of a row: it is patched if it satisfies the filters, and left
as it is if not. -/
def UpdateSpec.Rewrites (spec : UpdateSpec) (settings : Settings) (stamp : String)
    (row changed : Record) : Prop :=
  if Filter.allHold row spec.filters then row.PatchedBy settings stamp spec.patch changed
  else changed = row

namespace Store

variable (store : Store) (spec : UpdateSpec) (now : String)

/-- An update leaves all but the table of its entity. -/
theorem tables_update {other : String} (apart : spec.entity ≠ other) :
    (store.update spec now).2.tables.get? other = store.tables.get? other := by
  simp only [update]
  split
  · rfl
  · simp [setTable, apart]

theorem rowByRow_update {related : Record → Record → Prop}
    (selected : ∀ row, Filter.allHold row spec.filters →
      related row (Record.patched store.settings now spec.patch row))
    (unselected : ∀ row, ¬Filter.allHold row spec.filters → related row row) :
    Table.RowByRow related (store.table spec.entity)
      ((store.update spec now).2.table spec.entity) := by
  rw [table_update, if_pos rfl]
  apply Table.rowByRow_map fun row =>
    if Filter.allHold row spec.filters then Record.patched store.settings now spec.patch row
    else row
  intro row
  split
  · rename_i holds
    exact selected row holds
  · rename_i fails
    exact unselected row fails

end Store

/-- An update of a memory adapter succeeds with the number of rows that satisfied the
filters before, which is what a count answers. The rows of its entity keep their keys
and their order; those that satisfied the filters are patched, and the others, all
other tables, the tables kept aside and the settings are as before. -/
theorem Adapter.update_rewrites (adapter : Adapter) (memory : adapter.kind = .memory)
    (notId : adapter.store.settings.updatedAtField ≠ adapter.store.settings.idField)
    (notCreated : adapter.store.settings.updatedAtField ≠ adapter.store.settings.createdAtField)
    (spec : UpdateSpec) (distinct : Keyed.Distinct spec.patch) (supply : Supply) :
    let store := adapter.store
    ∃ updated after,
      Adapter.update spec adapter supply =
          (.ok updated, { adapter with store := after }, supply.afterTime) ∧
        updated = (store.rows spec.entity).countP (fun row => Filter.allHold row spec.filters) ∧
        (∀ query : QuerySpec, query.entity = spec.entity → query.filters = spec.filters →
          Adapter.count query adapter supply = (.ok updated, adapter, supply)) ∧
        Table.RowByRow (spec.Rewrites store.settings supply.time) (store.table spec.entity)
          (after.table spec.entity) ∧
        (∀ other, spec.entity ≠ other → after.tables.get? other = store.tables.get? other) ∧
        after.snapshot = store.snapshot ∧ after.settings = store.settings := by
  intro store
  have counted := store.update_fst spec supply.time
  have matched := congrArg List.length (store.matching_eq spec.entity spec.filters)
  rw [List.length_map, Store.matching] at matched
  obtain ⟨tables, frame⟩ := store.update_frame spec supply.time
  refine ⟨_, _, Adapter.update_of_memory memory spec supply, ?_, ?_, ?_, ?_, ?_, ?_⟩
  · rw [counted, List.countP_eq_length_filter, matched]
  · intro query sameEntity sameFilters
    rw [Adapter.count_of_memory memory, counted, Store.count_eq, sameEntity, sameFilters]
  · apply store.rowByRow_update
    · intro row holds
      rw [UpdateSpec.Rewrites, if_pos holds]
      exact Record.patchedBy_patched notId notCreated distinct supply.time row
    · intro row fails
      rw [UpdateSpec.Rewrites, if_neg fails]
  · intro other apart
    exact store.tables_update spec supply.time apart
  · rw [frame]
  · rw [frame]

/-- A patch that changes the field that the filter tests, and tries to change the id and
the creation time, is written to the one row that satisfied the filter before. -/
theorem Adapter.update_rewrites_testedField :
    let supply : Supply := ⟨fun _ => "u", fun _ => "t", 0, 0⟩
    let first : Record := [("id", .text "1"), ("createdAt", .text "c"), ("n", .number (.int 1))]
    let second : Record := [("id", .text "2"), ("createdAt", .text "c"), ("n", .number (.int 2))]
    let adapter : Adapter := { store := { tables := [("Doc", [("1", first), ("2", second)])] } }
    let spec : UpdateSpec :=
      ⟨"Doc", [.condition (.of ⟨["n"]⟩ .eq (.number (.int 1)))],
        [("n", .number (.int 2)), ("id", .text "9"), ("createdAt", .null), ("m", .null)]⟩
    ∃ after,
      Adapter.update spec adapter supply =
          (.ok 1, { adapter with store := after }, supply.afterTime) ∧
        Table.RowByRow (spec.Rewrites {} "t") [("1", first), ("2", second)]
          (after.table "Doc") := by
  intro supply first second adapter spec
  obtain ⟨updated, after, answered, counted, -, rows, -⟩ :=
    adapter.update_rewrites rfl (by decide) (by decide) spec (by decide) supply
  have one : updated = 1 := by
    rw [counted]
    decide +kernel
  rw [one] at answered
  exact ⟨after, answered, rows⟩

end RecordQuery
