import RecordQuery.Adapter

/-!
# Calls on adapters

The calls of an adapter as data. Calls on rows leave everything but the tables of
an adapter alone, so what holds of a transaction's snapshot or of the adapter's
kind survives each of them. Any call at all takes one step of the store.
-/

namespace RecordQuery

/-- Answers of calls can be compared. -/
instance decidableEqExcept {ε α : Type} [DecidableEq ε] [DecidableEq α] :
    DecidableEq (Except ε α)
  | .ok left, .ok right => decidable_of_iff (left = right) (by simp)
  | .error left, .error right => decidable_of_iff (left = right) (by simp)
  | .ok _, .error _ | .error _, .ok _ => .isFalse nofun

/-- A call on the rows of an adapter, with the type of its answer. -/
inductive DataCall : Type → Type where
  | query (spec : QuerySpec) : DataCall (QueryResult Record)
  | queryFirst (spec : QuerySpec) : DataCall (Option Record)
  | count (spec : QuerySpec) : DataCall Nat
  | create (spec : CreateSpec) : DataCall Record
  | update (spec : UpdateSpec) : DataCall Nat
  | delete (spec : DeleteSpec) : DataCall Nat

/-- The adapter with other tables in its store. -/
def Adapter.withTables (adapter : Adapter) (tables : Keyed Table) : Adapter :=
  { adapter with store := { adapter.store with tables } }

@[simp] theorem Adapter.kind_withTables (adapter : Adapter) (tables : Keyed Table) :
    (adapter.withTables tables).kind = adapter.kind := rfl

@[simp] theorem Adapter.snapshot_withTables (adapter : Adapter) (tables : Keyed Table) :
    (adapter.withTables tables).store.snapshot = adapter.store.snapshot := rfl

namespace DataCall

variable {α : Type}

/-- Carry out a call. -/
def perform : DataCall α → AdapterCall α
  | query spec => Adapter.query spec
  | queryFirst spec => Adapter.queryFirst spec
  | count spec => Adapter.count spec
  | create spec => Adapter.create spec
  | update spec => Adapter.update spec
  | delete spec => Adapter.delete spec

end DataCall

namespace Store

theorem create_frame (store : Store) (spec : CreateSpec) (unique now : String) :
    ∃ tables, (store.create spec unique now).2 = { store with tables } := by
  simp only [create]
  split
  · exact ⟨store.tables, rfl⟩
  · exact ⟨_, rfl⟩

theorem update_frame (store : Store) (spec : UpdateSpec) (now : String) :
    ∃ tables, (store.update spec now).2 = { store with tables } := by
  simp only [update]
  split
  · exact ⟨store.tables, rfl⟩
  · exact ⟨_, rfl⟩

theorem delete_frame (store : Store) (spec : DeleteSpec) :
    ∃ tables, (store.delete spec).2 = { store with tables } := by
  simp only [delete]
  split
  · exact ⟨store.tables, rfl⟩
  · exact ⟨_, rfl⟩

end Store

/-- A call changes nothing but the tables. -/
theorem DataCall.perform_frame {α : Type} (call : DataCall α) (adapter : Adapter)
    (supply : Supply) :
    ∃ tables, (call.perform adapter supply).2.1 = adapter.withTables tables := by
  have unchanged : ∃ tables, adapter = adapter.withTables tables := ⟨adapter.store.tables, rfl⟩
  cases call with
  | query | queryFirst | count => exact unchanged
  | create spec =>
      simp only [perform, Adapter.create]
      split
      · exact unchanged
      · obtain ⟨tables, changed⟩ := adapter.store.create_frame spec supply.id supply.time
        exact ⟨tables, by simp [Adapter.withTables, changed]⟩
  | update spec =>
      simp only [perform, Adapter.update]
      split
      · exact unchanged
      · obtain ⟨tables, changed⟩ := adapter.store.update_frame spec supply.time
        exact ⟨tables, by simp [Adapter.withTables, changed]⟩
  | delete spec =>
      simp only [perform, Adapter.delete]
      split
      · exact unchanged
      · obtain ⟨tables, changed⟩ := adapter.store.delete_frame spec
        exact ⟨tables, by simp [Adapter.withTables, changed]⟩

/-! ## Memory adapters refuse nothing -/

namespace Adapter

variable {adapter : Adapter}

theorem query_of_memory (memory : adapter.kind = .memory) (spec : QuerySpec) (supply : Supply) :
    Adapter.query spec adapter supply = (.ok (adapter.store.query spec), adapter, supply) := by
  simp [query, reading, memory, AdapterKind.refuses]

theorem count_of_memory (memory : adapter.kind = .memory) (spec : QuerySpec) (supply : Supply) :
    Adapter.count spec adapter supply = (.ok (adapter.store.count spec), adapter, supply) := by
  simp [count, reading, memory, AdapterKind.refuses]

theorem update_of_memory (memory : adapter.kind = .memory) (spec : UpdateSpec) (supply : Supply) :
    Adapter.update spec adapter supply =
      (.ok (adapter.store.update spec supply.time).1,
        { adapter with store := (adapter.store.update spec supply.time).2 }, supply.afterTime) := by
  simp [update, memory, AdapterKind.refuses]

theorem delete_of_memory (memory : adapter.kind = .memory) (spec : DeleteSpec) (supply : Supply) :
    Adapter.delete spec adapter supply =
      (.ok (adapter.store.delete spec).1,
        { adapter with store := (adapter.store.delete spec).2 }, supply) := by
  simp [delete, memory, AdapterKind.refuses]

theorem begin_of_memory (memory : adapter.kind = .memory) :
    adapter.begin = adapter.onStore Store.begin := by
  simp [begin, hasManual, memory, AdapterKind.capabilities, AdapterKind.refuses]

theorem commit_of_memory (memory : adapter.kind = .memory) :
    adapter.commit = adapter.onStore Store.commit := by
  simp [commit, hasManual, countCommit, memory, AdapterKind.capabilities, AdapterKind.refuses,
    AdapterKind.counts]

theorem rollback_of_memory (memory : adapter.kind = .memory) :
    adapter.rollback = adapter.onStore Store.rollback := by
  simp [rollback, hasManual, countRollback, memory, AdapterKind.capabilities, AdapterKind.refuses,
    AdapterKind.counts]

end Adapter

/-! ## Calls of any sort -/

/-- Any call on an adapter: on its rows, on its transaction, or to clear it. -/
inductive AdapterRequest : Type 1 where
  | data {α : Type} (call : DataCall α)
  | begin
  | commit
  | rollback
  | clear

namespace AdapterRequest

/-- Carry out a call. The answer says whether it succeeded. -/
def perform : AdapterRequest → AdapterCall Unit
  | data call => fun adapter supply =>
      let (answer, after) := call.perform adapter supply
      (answer.map fun _ => (), after)
  | begin => fun adapter supply => (adapter.begin.1, adapter.begin.2, supply)
  | commit => fun adapter supply => (adapter.commit.1, adapter.commit.2, supply)
  | rollback => fun adapter supply => (adapter.rollback.1, adapter.rollback.2, supply)
  | clear => fun adapter supply =>
      (.ok (), { adapter with store := adapter.store.clear }, supply)

/-- Carry out calls one after the other, whether they succeed or fail. -/
def runAll : List AdapterRequest → Adapter → Supply → Adapter × Supply
  | [], adapter, supply => (adapter, supply)
  | request :: rest, adapter, supply =>
      let (_, adapter, supply) := request.perform adapter supply
      runAll rest adapter supply

end AdapterRequest

/-- What one call can do to a store, the texts that it draws being given. -/
inductive Store.Step (store : Store) (unique now : String) : Store → Prop where
  | stay : Step store unique now store
  | create (spec : CreateSpec) : Step store unique now (store.create spec unique now).2
  | update (spec : UpdateSpec) : Step store unique now (store.update spec now).2
  | delete (spec : DeleteSpec) : Step store unique now (store.delete spec).2
  | begin : Step store unique now store.begin.2
  | commit : Step store unique now store.commit.2
  | rollback : Step store unique now store.rollback.2
  | clear : Step store unique now store.clear

namespace Store.Step

variable {store after : Store} {unique now : String}

theorem settings_eq (step : store.Step unique now after) : after.settings = store.settings := by
  cases step with
  | stay => rfl
  | create spec =>
      obtain ⟨tables, changed⟩ := store.create_frame spec unique now
      rw [changed]
  | update spec =>
      obtain ⟨tables, changed⟩ := store.update_frame spec now
      rw [changed]
  | delete spec =>
      obtain ⟨tables, changed⟩ := store.delete_frame spec
      rw [changed]
  | begin => rw [Store.begin]; split <;> rfl
  | commit => rw [Store.commit]; split <;> rfl
  | rollback => rw [Store.rollback]; split <;> rfl
  | clear => rfl

end Store.Step

namespace Adapter

variable (adapter : Adapter) (unique now : String)

theorem countCommit_store : adapter.countCommit.store = adapter.store := by
  rw [countCommit]
  split <;> rfl

theorem countRollback_store : adapter.countRollback.store = adapter.store := by
  rw [countRollback]
  split <;> rfl

theorem begin_step : adapter.store.Step unique now adapter.begin.2.store := by
  simp only [Adapter.begin]
  split
  · exact .stay
  · split
    · exact .stay
    · exact .begin

theorem commit_step : adapter.store.Step unique now adapter.commit.2.store := by
  simp only [Adapter.commit, onStore, countCommit_store]
  split
  · exact .stay
  · split
    · exact .stay
    · exact .commit

theorem rollback_step : adapter.store.Step unique now adapter.rollback.2.store := by
  simp only [Adapter.rollback, onStore, countRollback_store]
  split
  · exact .stay
  · split
    · exact .stay
    · exact .rollback

end Adapter

theorem DataCall.perform_step {α : Type} (call : DataCall α) (adapter : Adapter)
    (supply : Supply) :
    adapter.store.Step supply.id supply.time (call.perform adapter supply).2.1.store := by
  cases call with
  | query | queryFirst | count => exact .stay
  | create spec =>
      simp only [perform, Adapter.create]
      split
      · exact .stay
      · exact .create spec
  | update spec =>
      simp only [perform, Adapter.update]
      split
      · exact .stay
      · exact .update spec
  | delete spec =>
      simp only [perform, Adapter.delete]
      split
      · exact .stay
      · exact .delete spec

/-- What is drawn next time does not depend on what was drawn before. -/
theorem DataCall.perform_idAt {α : Type} (call : DataCall α) (adapter : Adapter)
    (supply : Supply) : (call.perform adapter supply).2.2.idAt = supply.idAt := by
  cases call with
  | query | queryFirst | count => rfl
  | create spec =>
      simp only [perform, Adapter.create]
      split
      · rfl
      · simp only [Supply.afterTime]
        split <;> rfl
  | update spec =>
      simp only [perform, Adapter.update]
      split <;> rfl
  | delete spec =>
      simp only [perform, Adapter.delete]
      split <;> rfl

namespace AdapterRequest

theorem perform_step (request : AdapterRequest) (adapter : Adapter) (supply : Supply) :
    adapter.store.Step supply.id supply.time (request.perform adapter supply).2.1.store := by
  cases request with
  | data call => exact call.perform_step adapter supply
  | begin => exact adapter.begin_step _ _
  | commit => exact adapter.commit_step _ _
  | rollback => exact adapter.rollback_step _ _
  | clear => exact .clear

theorem perform_idAt (request : AdapterRequest) (adapter : Adapter) (supply : Supply) :
    (request.perform adapter supply).2.2.idAt = supply.idAt := by
  cases request with
  | data call => exact call.perform_idAt adapter supply
  | _ => rfl

end AdapterRequest

end RecordQuery
