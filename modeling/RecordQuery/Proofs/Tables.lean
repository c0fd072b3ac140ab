import RecordQuery.Proofs.Keyed
import RecordQuery.Store

/-!
# What the store's operations do to tables

Queries and counts read the entries that an entity's filters select, updates
rewrite exactly these entries in place, and removals drop exactly these. Tables
of other entities are not touched.
-/

namespace RecordQuery.Store

variable (store : Store)

/-- The entries of an entity whose rows satisfy all filters. -/
def found (entity : String) (filters : List Filter) : Table :=
  (store.table entity).filter fun (_, row) => Filter.allHold row filters

theorem matching_eq (entity : String) (filters : List Filter) :
    store.matching entity filters = (store.found entity filters).map Prod.snd := by
  simp [matching, rows, found, List.filter_map, Function.comp_def]

theorem setTable_table {entity : String} (filled : store.table entity ≠ []) :
    store.setTable entity (store.table entity) = store := by
  rw [table] at filled
  rw [setTable, table]
  cases held : store.tables.get? entity with
  | none => simp [held] at filled
  | some rows => rw [Option.getD_some, Keyed.put_of_get? held]

theorem count_eq (spec : QuerySpec) :
    store.count spec = (store.found spec.entity spec.filters).length := by
  simp [count, matching_eq]

/-- A creation that fails changes nothing. -/
theorem create_of_error {spec : CreateSpec} {unique now : String} {error : Error}
    (failed : (store.create spec unique now).1 = .error error) :
    (store.create spec unique now).2 = store := by
  simp only [create] at failed ⊢
  split
  · rfl
  · rename_i vacant
    rw [if_neg vacant] at failed
    cases failed

/-- A row that is created goes to the end of its table, under a key that was free. -/
theorem create_of_ok {spec : CreateSpec} {unique now : String} {row : Record}
    (created : (store.create spec unique now).1 = .ok row) :
    Record.key store.settings row ∉ (store.table spec.entity).keys ∧
      (store.create spec unique now).2 =
        store.setTable spec.entity
          (store.table spec.entity ++ [(Record.key store.settings row, row)]) := by
  simp only [create] at created ⊢
  split at created
  · cases created
  · rename_i taken
    cases created
    rw [if_neg taken]
    rw [Keyed.has_iff_mem_keys] at taken
    exact ⟨taken, by rw [Keyed.put_of_notMem taken]⟩

@[simp] theorem update_fst (spec : UpdateSpec) (now : String) :
    (store.update spec now).1 = (store.found spec.entity spec.filters).length := by
  simp [update, found, List.countP_eq_length_filter]

@[simp] theorem table_update (spec : UpdateSpec) (now other : String) :
    (store.update spec now).2.table other =
      if spec.entity = other then
        (store.table spec.entity).map fun (key, row) =>
          (key, if Filter.allHold row spec.filters then
            Record.patched store.settings now spec.patch row else row)
      else store.table other := by
  simp only [update]
  split
  case isTrue empty =>
    split
    case isTrue same => simp_all
    case isFalse => rfl
  case isFalse => exact store.table_setTable _ _ _

/-- An update that finds nothing changes nothing. -/
theorem update_of_found_nil (spec : UpdateSpec)
    (none : store.found spec.entity spec.filters = []) (now : String) :
    store.update spec now = (0, store) := by
  have counted := store.update_fst spec now
  rw [none] at counted
  refine Prod.ext counted ?_
  have kept := Keyed.map_eq_self (fun row => Filter.allHold row spec.filters)
    (Record.patched store.settings now spec.patch) none
  simp only [update]
  split
  · rfl
  · rename_i filled
    refine (congrArg (store.setTable spec.entity) kept).trans (store.setTable_table ?_)
    simpa using filled

/-- An update that finds one row patches it in its place. -/
theorem update_of_found_singleton (spec : UpdateSpec)
    (distinct : Keyed.Distinct (store.table spec.entity)) {key : String} {row : Record}
    (found : store.found spec.entity spec.filters = [(key, row)]) (now : String) :
    store.update spec now =
      (1, store.setTable spec.entity ((store.table spec.entity).put key
        (Record.patched store.settings now spec.patch row))) := by
  have counted := store.update_fst spec now
  rw [found] at counted
  refine Prod.ext counted ?_
  simp only [update]
  split
  · rename_i empty
    rw [Store.found, List.isEmpty_iff.1 empty] at found
    cases found
  · exact congrArg (store.setTable spec.entity)
      (Keyed.map_eq_put distinct (fun row => Filter.allHold row spec.filters)
        (Record.patched store.settings now spec.patch) found)

@[simp] theorem table_delete (spec : DeleteSpec) (other : String) :
    (store.delete spec).2.table other =
      if spec.entity = other then
        (store.table spec.entity).filter fun (_, row) => !Filter.allHold row spec.filters
      else store.table other := by
  simp only [delete]
  split
  case isTrue empty =>
    split
    case isTrue same => simp_all
    case isFalse => rfl
  case isFalse => exact store.table_setTable _ _ _

end RecordQuery.Store
