import RecordQuery.Identity
import RecordQuery.Spec

/-!
# The memory store

Tables of records in memory, one per entity, each in the order in which its rows
were created. A store can keep a copy of its tables aside while a transaction is
open, and return to it. Every operation is a function of the store and of the
texts drawn for it.
-/

namespace RecordQuery

/-- The rows of one entity under the texts of their ids. -/
abbrev Table := Keyed Record

/-- All rows, the tables as they were when the open transaction began, and the way
in which the rows of a query are sorted. -/
structure Store where
  settings : Settings := {}
  tables : Keyed Table := []
  snapshot : Option (Keyed Table) := none
  sorter : Sorter := .placing

namespace Record

/-- A row cut to the selected names: their first pieces and the id stay. An
empty selection keeps everything. -/
def project (settings : Settings) (select : List String) (row : Record) : Record :=
  if select.isEmpty then row
  else
    row.filter fun (key, _) =>
      key == settings.idField ||
        select.any fun name => (Text.pieces '.' name.toList).head? == some key.toList

/-- A row with a patch written over it. The id and the creation time stay, and
the time of modification is stamped unless the patch brings its own. -/
def patched (settings : Settings) (stamp : String) (patch row : Record) : Record :=
  let writable := patch.filter fun (key, _) =>
    key != settings.idField && key != settings.createdAtField
  let written := row.overlay writable
  if patch.has settings.updatedAtField then written
  else written.put settings.updatedAtField (.text stamp)

end Record

namespace Store

/-- The table of an entity. An entity without one has no rows. -/
def table (store : Store) (entity : String) : Table := (store.tables.get? entity).getD []

/-- The rows of an entity in creation order. -/
def rows (store : Store) (entity : String) : List Record := (store.table entity).map Prod.snd

/-- The store with another table for an entity. -/
def setTable (store : Store) (entity : String) (table : Table) : Store :=
  { store with tables := store.tables.put entity table }

@[simp] theorem settings_setTable (store : Store) (entity : String) (table : Table) :
    (store.setTable entity table).settings = store.settings := rfl

@[simp] theorem table_setTable (store : Store) (entity other : String) (table : Table) :
    (store.setTable entity table).table other =
      if entity = other then table else store.table other := by
  simp only [Store.table, setTable, Keyed.get?_put]
  split <;> rfl

@[simp] theorem setTable_setTable (store : Store) (entity : String) (first second : Table) :
    (store.setTable entity first).setTable entity second = store.setTable entity second := by
  rw [setTable, setTable, setTable, Keyed.put_put]

/-- No entity has rows. -/
def isEmpty (store : Store) : Bool := store.tables.all fun (_, table) => table.isEmpty

/-- The store without rows and without an open transaction. -/
def clear (store : Store) : Store := { store with tables := [], snapshot := none }

/-- The rows of an entity that satisfy all filters. -/
def matching (store : Store) (entity : String) (filters : List Filter) : List Record :=
  (store.rows entity).filter fun row => Filter.allHold row filters

/-- What the sorter makes of the rows of a query. -/
def sorted? (store : Store) (spec : QuerySpec) : Option (List Record) :=
  store.sorter.sort? (rowPrecedes spec.order) (store.matching spec.entity spec.filters)

/-- Whether a query comes to an answer. Where the sorter gives up it does not, and
nobody sees what `query` says of it. -/
def answers (store : Store) (spec : QuerySpec) : Bool := (store.sorted? spec).isSome

/-- Filter, sort, cut to the window, and cut each row to the selection. -/
def query (store : Store) (spec : QuerySpec) : QueryResult Record :=
  let found := store.matching spec.entity spec.filters
  let data := (spec.window.apply (sortRows store.sorter spec.order found)).map
    (Record.project store.settings spec.select)
  .of data found.length spec.window

/-- The number of rows that satisfy the filters of a query. -/
def count (store : Store) (spec : QuerySpec) : Nat :=
  (store.matching spec.entity spec.filters).length

/-- Whether a creation needs a fresh id. -/
def needsId (store : Store) (spec : CreateSpec) : Bool := !Record.hasId store.settings spec.data

/-- The row that a creation stores: with an id and a creation time. -/
def prepared (store : Store) (spec : CreateSpec) (unique now : String) : Record :=
  Record.stampIfAbsent store.settings.createdAtField now
    (Record.ensureId store.settings spec.entity unique spec.data)

/-- Store a row under the text of its id, which must be free. -/
def create (store : Store) (spec : CreateSpec) (unique now : String) :
    Except Error Record × Store :=
  let row := store.prepared spec unique now
  let key := Record.key store.settings row
  let table := store.table spec.entity
  if table.has key then (.error (.conflict spec.entity key), store)
  else (.ok row, store.setTable spec.entity (table.put key row))

/-- Patch the rows that satisfy all filters, and say how many there are. -/
def update (store : Store) (spec : UpdateSpec) (now : String) : Nat × Store :=
  let selected := fun (row : Record) => Filter.allHold row spec.filters
  let table := store.table spec.entity
  let updated := table.map fun (key, row) =>
    (key, if selected row then Record.patched store.settings now spec.patch row else row)
  (table.countP fun (_, row) => selected row,
    if table.isEmpty then store else store.setTable spec.entity updated)

/-- Remove the rows that satisfy all filters, and say how many there were. -/
def delete (store : Store) (spec : DeleteSpec) : Nat × Store :=
  let table := store.table spec.entity
  let kept := table.filter fun (_, row) => !Filter.allHold row spec.filters
  (table.length - kept.length,
    if table.isEmpty then store else store.setTable spec.entity kept)

/-- Keep the tables aside. Transactions do not nest. -/
def begin (store : Store) : Except Error Unit × Store :=
  match store.snapshot with
  | some _ => (.error (.transaction .alreadyOpen), store)
  | none => (.ok (), { store with snapshot := some store.tables })

/-- Give up the tables kept aside. -/
def commit (store : Store) : Except Error Unit × Store :=
  match store.snapshot with
  | some _ => (.ok (), { store with snapshot := none })
  | none => (.error (.transaction .nothingToCommit), store)

/-- Return to the tables kept aside. -/
def rollback (store : Store) : Except Error Unit × Store :=
  match store.snapshot with
  | some tables => (.ok (), { store with tables := tables, snapshot := none })
  | none => (.error (.transaction .nothingToRollBack), store)

end Store

end RecordQuery
