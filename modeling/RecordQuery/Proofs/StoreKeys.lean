import RecordQuery.Proofs.AdapterCalls
import RecordQuery.Proofs.Keyed

/-!
# Rows stay under the text of their id

A key is computed once, when its row is created, while patches and stamps rewrite
the row in place and whole stores come back on rollback. Key and row still agree
in every state of a store, because a patch never reaches the id and the id never
has an empty text.
-/

namespace RecordQuery

/-! ## Texts of ids are never empty -/

namespace FloatFormat

theorem positional_ne_nil (digits : List Char) (exponent : Int) :
    positional digits exponent ≠ [] := by
  simp only [positional]
  split
  · simp
  · split <;> simp

theorem write_ne_nil (format : FloatFormat) (value : Double) : format.write value ≠ [] := by
  simp only [write]
  split
  · simp
  · intro empty
    have written := (List.append_eq_nil_iff.1 empty).2
    split at written
    · exact positional_ne_nil _ _ written
    · simp [scientific] at written

end FloatFormat

theorem Number.write_ne_nil (number : Number) : number.write ≠ [] := by
  cases number with
  | int value => simp [write, decimalDigits]
  | float value => exact FloatFormat.write_ne_nil _ value

theorem Json.write_ne_nil (value : Value) : Json.write value ≠ [] := by
  cases value with
  | number value => exact value.write_ne_nil
  | bool value => cases value <;> simp [write]
  | _ => simp [write, quote]

namespace Leaf

theorem idText_ne_empty {leaf : Leaf} (present : leaf.isPresentId) : leaf.idText ≠ "" := by
  have compact_ne (value : Value) : value.compact ≠ "" := by
    intro empty
    have none := congrArg String.toList empty
    rw [Value.compact, String.toList_ofList] at none
    exact Json.write_ne_nil value none
  cases leaf with
  | none => cases present
  | some value =>
      cases value with
      | null => cases present
      | text value => simpa [isPresentId, idText] using present
      | _ => exact compact_ne _

theorem not_isNullish_of_isPresentId {leaf : Leaf} (present : leaf.isPresentId) :
    ¬leaf.isNullish := by
  cases leaf with
  | none => cases present
  | some value => cases value <;> simp_all [isPresentId, isNullish]

end Leaf

/-! ## Rows that fit their key -/

/-- A row fits a key: the key is the text of the row's id, which is present, and
the row has a creation time. -/
structure Record.Fits (settings : Settings) (key : String) (row : Record) : Prop where
  hasId : Record.hasId settings row
  key_eq : Record.key settings row = key
  key_ne : key ≠ ""
  created : ¬Leaf.isNullish (row.get? settings.createdAtField)

namespace Record

variable {settings : Settings}

theorem fits_key {row : Record} (hasId : Record.hasId settings row)
    (created : ¬Leaf.isNullish (row.get? settings.createdAtField)) :
    row.Fits settings (Record.key settings row) :=
  ⟨hasId, rfl, Leaf.idText_ne_empty hasId, created⟩

theorem makeId_ne_empty (settings : Settings) (entity : String) {unique : String}
    (drawn : unique ≠ "") : settings.makeId entity unique ≠ "" := by
  simp only [Settings.makeId]
  split
  · exact drawn
  · simp

theorem hasId_ensureId (entity : String) {unique : String} (drawn : unique ≠ "")
    (record : Record) : Record.hasId settings (Record.ensureId settings entity unique record) := by
  simp only [Record.ensureId]
  split
  · assumption
  · simp [Record.hasId, Leaf.isPresentId, makeId_ne_empty settings entity drawn]

theorem hasId_stampIfAbsent (field stamp : String) {record : Record}
    (present : Record.hasId settings record) :
    Record.hasId settings (Record.stampIfAbsent field stamp record) := by
  simp only [Record.stampIfAbsent]
  split
  · rename_i missing
    have apart : field ≠ settings.idField := by
      intro same
      rw [same] at missing
      exact Leaf.not_isNullish_of_isPresentId present missing
    simpa [Record.hasId, apart] using present
  · exact present

theorem not_isNullish_stampIfAbsent (field stamp : String) (record : Record) :
    ¬Leaf.isNullish ((Record.stampIfAbsent field stamp record).get? field) := by
  simp only [Record.stampIfAbsent]
  split
  · simp [Leaf.isNullish]
  · assumption

end Record

theorem Store.fits_prepared (store : Store) (spec : CreateSpec) {unique : String}
    (drawn : unique ≠ "") (now : String) :
    (store.prepared spec unique now).Fits store.settings
      (Record.key store.settings (store.prepared spec unique now)) :=
  Record.fits_key
    (Record.hasId_stampIfAbsent _ _ (Record.hasId_ensureId spec.entity drawn spec.data))
    (Record.not_isNullish_stampIfAbsent _ _ _)

namespace Record

variable {settings : Settings}

/-- A patch leaves the id and the creation time alone. The stamp is written to
the field of the modification time only. -/
theorem get?_patched {field : String} (stamp : String) (patch row : Record)
    (fixed : field = settings.idField ∨ field = settings.createdAtField) :
    (Record.patched settings stamp patch row).get? field =
      if settings.updatedAtField = field ∧ ¬patch.has settings.updatedAtField then
        some (.text stamp)
      else row.get? field := by
  have dropped (value : Value) :
      (field != settings.idField && field != settings.createdAtField) = false := by
    rcases fixed with same | same <;> simp [same]
  simp only [Record.patched]
  split
  · rename_i stamped
    rw [Keyed.get?_overlay_of_notMem (Keyed.notMem_keys_filter dropped)]
    simp [stamped]
  · rename_i unstamped
    rw [Keyed.get?_put, Keyed.get?_overlay_of_notMem (Keyed.notMem_keys_filter dropped)]
    simp [unstamped]

theorem Fits.patched {key : String} {row : Record}
    (apart : settings.idField ≠ settings.updatedAtField) (fits : row.Fits settings key)
    (stamp : String) (patch : Record) :
    (Record.patched settings stamp patch row).Fits settings key := by
  have id_eq : Record.id settings (Record.patched settings stamp patch row) =
      Record.id settings row := by
    simp [Record.id, get?_patched stamp patch row (.inl rfl), Ne.symm apart]
  refine ⟨?_, ?_, fits.key_ne, ?_⟩
  · rw [Record.hasId, id_eq]
    exact fits.hasId
  · rw [Record.key, id_eq]
    exact fits.key_eq
  · rw [get?_patched stamp patch row (.inr rfl)]
    split
    · simp [Leaf.isNullish]
    · exact fits.created

end Record

/-! ## Well-keyed stores -/

/-- The keys of a table are distinct, and every row fits its key. -/
structure Table.WellKeyed (settings : Settings) (table : Table) : Prop where
  distinct : Keyed.Distinct table
  fits : ∀ key row, (key, row) ∈ table → row.Fits settings key

/-- All tables are well keyed, both the present ones and those kept aside. -/
structure Store.WellKeyed (store : Store) : Prop where
  live : ∀ entity table, (entity, table) ∈ store.tables → Table.WellKeyed store.settings table
  kept : ∀ saved, store.snapshot = some saved →
    ∀ entity table, (entity, table) ∈ saved → Table.WellKeyed store.settings table

namespace Table.WellKeyed

variable {settings : Settings} {table : Table}

theorem nil (settings : Settings) : Table.WellKeyed settings [] :=
  ⟨List.nodup_nil, nofun⟩

theorem put {row : Record} (wellKeyed : Table.WellKeyed settings table)
    (fits : row.Fits settings (Record.key settings row)) :
    Table.WellKeyed settings (Keyed.put table (Record.key settings row) row) := by
  refine ⟨Keyed.distinct_put wellKeyed.distinct _ row, ?_⟩
  intro key other member
  rcases Keyed.mem_put member with same | old
  · cases same
    exact fits
  · exact wellKeyed.fits key other old

/-- Rewriting rows in place keeps the keys, so only the rows matter. -/
theorem map {change : Record → Record} (wellKeyed : Table.WellKeyed settings table)
    (keeps : ∀ key row, row.Fits settings key → (change row).Fits settings key) :
    Table.WellKeyed settings (table.map fun (key, row) => (key, change row)) := by
  constructor
  · have keys_eq : Keyed.keys (table.map fun (key, row) => (key, change row)) =
        Keyed.keys table := by
      simp [Keyed.keys, Function.comp_def]
    rw [Keyed.Distinct, keys_eq]
    exact wellKeyed.distinct
  · intro key row member
    obtain ⟨⟨old, before⟩, present, same⟩ := List.mem_map.1 member
    cases same
    exact keeps key before (wellKeyed.fits key before present)

theorem filter (wellKeyed : Table.WellKeyed settings table) (keep : String × Record → Bool) :
    Table.WellKeyed settings (table.filter keep) := by
  constructor
  · exact wellKeyed.distinct.filter keep
  · intro key row member
    exact wellKeyed.fits key row (List.mem_filter.1 member).1

end Table.WellKeyed

namespace Store.WellKeyed

variable {store : Store}

theorem of_closed (closed : store.snapshot = none)
    (live : ∀ entity table, (entity, table) ∈ store.tables →
      Table.WellKeyed store.settings table) : store.WellKeyed := by
  refine ⟨live, ?_⟩
  intro saved kept
  rw [closed] at kept
  cases kept

theorem table (wellKeyed : store.WellKeyed) (entity : String) :
    Table.WellKeyed store.settings (store.table entity) := by
  rw [Store.table]
  cases found : store.tables.get? entity with
  | none => exact .nil store.settings
  | some table => exact wellKeyed.live entity table (Keyed.mem_of_get? found)

theorem setTable (wellKeyed : store.WellKeyed) (entity : String) {table : Table}
    (tableWellKeyed : Table.WellKeyed store.settings table) :
    (store.setTable entity table).WellKeyed := by
  refine ⟨?_, wellKeyed.kept⟩
  intro other written member
  rcases Keyed.mem_put member with same | old
  · cases same
    exact tableWellKeyed
  · exact wellKeyed.live other written old

theorem create (wellKeyed : store.WellKeyed) (spec : CreateSpec) {unique : String}
    (drawn : unique ≠ "") (now : String) : (store.create spec unique now).2.WellKeyed := by
  simp only [Store.create]
  split
  · exact wellKeyed
  · have fits := store.fits_prepared spec drawn now
    exact wellKeyed.setTable spec.entity ((wellKeyed.table spec.entity).put fits)

theorem update (wellKeyed : store.WellKeyed)
    (apart : store.settings.idField ≠ store.settings.updatedAtField) (spec : UpdateSpec)
    (now : String) : (store.update spec now).2.WellKeyed := by
  have keeps (key : String) (row : Record) (fits : row.Fits store.settings key) :
      Record.Fits store.settings key
        (if Filter.allHold row spec.filters then
          Record.patched store.settings now spec.patch row
        else row) := by
    split
    · exact fits.patched apart now spec.patch
    · exact fits
  simp only [Store.update]
  split
  · exact wellKeyed
  · exact wellKeyed.setTable spec.entity ((wellKeyed.table spec.entity).map keeps)

theorem delete (wellKeyed : store.WellKeyed) (spec : DeleteSpec) :
    (store.delete spec).2.WellKeyed := by
  simp only [Store.delete]
  split
  · exact wellKeyed
  · exact wellKeyed.setTable _ ((wellKeyed.table spec.entity).filter _)

theorem clear (store : Store) : store.clear.WellKeyed := of_closed rfl nofun

theorem begin (wellKeyed : store.WellKeyed) : store.begin.2.WellKeyed := by
  simp only [Store.begin]
  split
  · exact wellKeyed
  · refine ⟨wellKeyed.live, ?_⟩
    intro saved kept
    cases kept
    exact wellKeyed.live

theorem commit (wellKeyed : store.WellKeyed) : store.commit.2.WellKeyed := by
  simp only [Store.commit]
  split
  · exact of_closed rfl wellKeyed.live
  · exact wellKeyed

theorem rollback (wellKeyed : store.WellKeyed) : store.rollback.2.WellKeyed := by
  simp only [Store.rollback]
  split
  case h_1 saved opened => exact of_closed rfl (wellKeyed.kept saved opened)
  case h_2 => exact wellKeyed

end Store.WellKeyed

theorem Store.Step.wellKeyed {store after : Store} {unique now : String}
    (step : store.Step unique now after)
    (apart : store.settings.idField ≠ store.settings.updatedAtField) (drawn : unique ≠ "")
    (wellKeyed : store.WellKeyed) : after.WellKeyed := by
  cases step with
  | stay => exact wellKeyed
  | create spec => exact wellKeyed.create spec drawn now
  | update spec => exact wellKeyed.update apart spec now
  | delete spec => exact wellKeyed.delete spec
  | begin => exact wellKeyed.begin
  | commit => exact wellKeyed.commit
  | rollback => exact wellKeyed.rollback
  | clear => exact .clear store

namespace AdapterRequest

theorem wellKeyed_perform (request : AdapterRequest) {adapter : Adapter} {supply : Supply}
    (apart : adapter.store.settings.idField ≠ adapter.store.settings.updatedAtField)
    (drawn : ∀ draw, supply.idAt draw ≠ "") (wellKeyed : adapter.store.WellKeyed) :
    (request.perform adapter supply).2.1.store.WellKeyed :=
  (request.perform_step adapter supply).wellKeyed apart (drawn supply.idsDrawn) wellKeyed

theorem wellKeyed_runAll_of_wellKeyed (requests : List AdapterRequest) {adapter : Adapter}
    {supply : Supply}
    (apart : adapter.store.settings.idField ≠ adapter.store.settings.updatedAtField)
    (drawn : ∀ draw, supply.idAt draw ≠ "") (wellKeyed : adapter.store.WellKeyed) :
    (runAll requests adapter supply).1.store.settings = adapter.store.settings ∧
      (runAll requests adapter supply).1.store.WellKeyed := by
  induction requests generalizing adapter supply with
  | nil => exact ⟨rfl, wellKeyed⟩
  | cons request rest ih =>
      have settings_eq := (request.perform_step adapter supply).settings_eq
      have drawnAfter : ∀ draw, (request.perform adapter supply).2.2.idAt draw ≠ "" := by
        rw [request.perform_idAt]
        exact drawn
      have kept := request.wellKeyed_perform apart drawn wellKeyed
      obtain ⟨finalSettings, finalKeyed⟩ := ih (by rwa [settings_eq]) drawnAfter kept
      exact ⟨finalSettings.trans settings_eq, finalKeyed⟩

/-- From the empty store, whatever is called and whatever fails, every row of
every table, also of those kept aside for a rollback, has an id and a creation
time and is stored under the text of its id, which is not empty and occurs once
in the table. -/
theorem wellKeyed_runAll (settings : Settings) (sorter : Sorter) (supply : Supply)
    (apart : settings.idField ≠ settings.updatedAtField)
    (drawn : ∀ draw, supply.idAt draw ≠ "") (requests : List AdapterRequest) :
    let store := (runAll requests { store := { settings, sorter } } supply).1.store
    store.settings = settings ∧ store.WellKeyed :=
  wellKeyed_runAll_of_wellKeyed requests apart drawn (.of_closed rfl nofun)

/-- A row with a numeric id is stored under its digits, also after a patch has
tried to change the id. -/
theorem wellKeyed_numericId :
    let supply : Supply := ⟨fun _ => "u", fun _ => "t", 0, 0⟩
    let requests : List AdapterRequest :=
      [.data (.create ⟨"Item", [("id", .number (.int 7))]⟩), .begin,
        .data (.update ⟨"Item", [], [("id", .text "8"), ("n", .null)]⟩)]
    let store := (runAll requests { store := { settings := {} } } supply).1.store
    store.tables = [("Item", [("7", [("id", .number (.int 7)), ("createdAt", .text "t"),
        ("n", .null), ("updatedAt", .text "t")])])] ∧
      store.WellKeyed := by
  intro supply requests store
  exact ⟨by decide +kernel,
    (wellKeyed_runAll {} .placing supply (by decide) (by simp [supply]) requests).2⟩

end AdapterRequest

end RecordQuery
