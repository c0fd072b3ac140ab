import RecordQuery.Proofs.Work

/-!
# Transactions of a memory adapter are all or nothing

While a transaction is open, its snapshot survives every step that work can take:
commands change tables but no snapshot, a swap only turns attention elsewhere, and
a further transaction on the same adapter is refused. What closes the
transaction therefore finds the snapshot taken at its start, on the adapter that
was active then.
-/

namespace RecordQuery

namespace Adapter

/-- The adapter with an open transaction, its tables kept aside. -/
def opened (adapter : Adapter) : Adapter :=
  { adapter with store := { adapter.store with snapshot := some adapter.store.tables } }

/-- The adapter with its transaction closed and the given tables. -/
def closeWith (adapter : Adapter) (tables : Keyed Table) : Adapter :=
  { adapter with store := { adapter.store with tables, snapshot := none } }

variable {adapter : Adapter}

theorem begin_of_open (memory : adapter.kind = .memory) {saved : Keyed Table}
    (isOpen : adapter.store.snapshot = some saved) :
    adapter.begin = (.error (.transaction .alreadyOpen), adapter) := by
  rw [begin_of_memory memory, onStore, Store.begin, isOpen]

theorem begin_of_closed (memory : adapter.kind = .memory)
    (closed : adapter.store.snapshot = none) : adapter.begin = (.ok (), adapter.opened) := by
  rw [begin_of_memory memory, onStore, Store.begin, closed]
  rfl

theorem commit_of_open (memory : adapter.kind = .memory) {saved : Keyed Table}
    (isOpen : adapter.store.snapshot = some saved) :
    adapter.commit = (.ok (), adapter.closeWith adapter.store.tables) := by
  rw [commit_of_memory memory, onStore, Store.commit, isOpen]
  rfl

theorem commit_of_closed (memory : adapter.kind = .memory)
    (closed : adapter.store.snapshot = none) :
    adapter.commit = (.error (.transaction .nothingToCommit), adapter) := by
  rw [commit_of_memory memory, onStore, Store.commit, closed]

theorem rollback_of_open (memory : adapter.kind = .memory) {saved : Keyed Table}
    (isOpen : adapter.store.snapshot = some saved) :
    adapter.rollback = (.ok (), adapter.closeWith saved) := by
  rw [rollback_of_memory memory, onStore, Store.rollback, isOpen]
  rfl

theorem rollback_of_closed (memory : adapter.kind = .memory)
    (closed : adapter.store.snapshot = none) :
    adapter.rollback = (.error (.transaction .nothingToRollBack), adapter) := by
  rw [rollback_of_memory memory, onStore, Store.rollback, closed]

end Adapter

namespace World

/-- A slot holds a memory adapter with an open transaction that would return to
the given tables. -/
structure HoldsOpen (slot : String) (saved : Keyed Table) (world : World) : Prop where
  kind : (world.adapter slot).kind = .memory
  snapshot : (world.adapter slot).store.snapshot = some saved

namespace HoldsOpen

variable {slot : String} {saved : Keyed Table} {world : World}

theorem of_adapter_eq {after : World} (holds : HoldsOpen slot saved world)
    (same : after.adapter slot = world.adapter slot) : HoldsOpen slot saved after :=
  ⟨same ▸ holds.kind, same ▸ holds.snapshot⟩

/-- An empty slot counts as an adapter without a transaction. -/
theorem has (holds : HoldsOpen slot saved world) : world.adapters.has slot := by
  have snapshot := holds.snapshot
  cases found : world.adapters.get? slot with
  | none => simp [World.adapter, found] at snapshot
  | some adapter => simp [Keyed.has, found]

end HoldsOpen

theorem stable_holdsOpen (slot : String) (saved : Keyed Table) : Stable (HoldsOpen slot saved) where
  supply := fun _ _ holds => ⟨holds.kind, holds.snapshot⟩
  tables := by
    intro world tables holds
    by_cases same : world.active = slot
    · subst same
      constructor
      · simpa [activeAdapter] using holds.kind
      · simpa [activeAdapter] using holds.snapshot
    · exact holds.of_adapter_eq (adapter_setAdapter_other world same _)

/-- The memory adapter's transactions are the manual ones. -/
theorem capabilities_hooks_memory {world : World} {slot : String}
    (memory : (world.adapter slot).kind = .memory) :
    (world.hooks slot).capabilities = { manual := true, serialized := true } := by
  simp [hooks, AdapterKind.capabilities, memory]

theorem begin_hooks_of_open {slot : String} {saved : Keyed Table} {world : World}
    (holds : HoldsOpen slot saved world) :
    (world.hooks slot).begin world = (.error (.transaction .alreadyOpen), world) := by
  simp [hooks, onSlot, Adapter.begin_of_open holds.kind holds.snapshot,
    setAdapter_adapter holds.has]

/-- A transaction on an adapter that has one open is refused, and nothing is run. -/
theorem transaction_refused {α : Type} {saved : Keyed Table} {world : World}
    (holds : HoldsOpen world.active saved world) (work : Engine α) :
    (Engine.transaction work).runOn world = (.error (.transaction .alreadyOpen), world) := by
  show (world.hooks world.active).run work.runOn world = _
  simp [TransactionHooks.run, capabilities_hooks_memory holds.kind, TransactionHooks.runManual,
    begin_hooks_of_open holds]

theorem start?_of_open {saved : Keyed Table} {world : World}
    (holds : HoldsOpen world.active saved world) :
    (world.hooks world.active).start? world = none := by
  simp [TransactionHooks.start?, capabilities_hooks_memory holds.kind, begin_hooks_of_open holds]

/-- The calls of another slot's adapter do not touch the open transaction. -/
theorem keep_hooks_other {slot other : String} (apart : other ≠ slot) (saved : Keyed Table)
    (world : World) : (world.hooks other).Keep (HoldsOpen slot saved) where
  begin := fun state holds => holds.of_adapter_eq (adapter_setAdapter_other state apart _)
  commit := fun state holds => holds.of_adapter_eq (adapter_setAdapter_other state apart _)
  rollback := fun state holds => holds.of_adapter_eq (adapter_setAdapter_other state apart _)
  enter := fun state holds => holds.of_adapter_eq (adapter_setAdapter_other state apart _)
  leave := fun _ state holds => holds.of_adapter_eq (adapter_setAdapter_other state apart _)

end World

open World Engine

variable {slot : String} {saved : Keyed Table}

theorem keeps_transaction_holdsOpen {α : Type} {work : Engine α}
    (kept : Keeps (HoldsOpen slot saved) work) :
    Keeps (HoldsOpen slot saved) (Engine.transaction work) := by
  intro world holds
  by_cases same : world.active = slot
  · subst same
    rw [transaction_refused holds]
    exact holds
  · exact (keep_hooks_other same saved world).run kept holds

theorem keeps_install_holdsOpen (other : String) (adapter : Adapter) :
    Keeps (HoldsOpen slot saved) (Engine.install other adapter) := by
  intro world holds
  simp only [Engine.install, ofFunction, runOn]
  split
  · exact holds
  · rename_i empty
    have apart : other ≠ slot := fun same => empty (same ▸ holds.has)
    exact holds.of_adapter_eq (adapter_setAdapter_other world apart adapter)

/-- The snapshot survives every program. -/
theorem Work.keeps_holdsOpen (session : Session) {α : Type} (work : Work α) :
    Keeps (HoldsOpen slot saved) (work.run session) := by
  induction work with
  | done outcome => exact keeps_ofExcept outcome
  | issue command next ih =>
      exact keeps_andThen (command.keeps_run (stable_holdsOpen slot saved) session) ih
  | install other adapter next ih =>
      exact keeps_andThen (keeps_install_holdsOpen other adapter) ih
  | swap other next ih =>
      exact keeps_andThen (fun world holds => ⟨holds.kind, holds.snapshot⟩) ih
  | transaction inner next innerIH nextIH =>
      exact keeps_andThen (keeps_transaction_holdsOpen innerIH) nextIH

/-- The snapshot is there at every point of a program. -/
theorem Work.Reaches.holdsOpen {session : Session} {α β : Type} {work : Work α}
    {rest : Work β} {world there : World} (reaches : work.Reaches session world rest there)
    (holds : HoldsOpen slot saved world) : HoldsOpen slot saved there := by
  induction reaches with
  | here => exact holds
  | issue _ ih => exact ih (Command.keeps_run (stable_holdsOpen slot saved) session _ _ holds)
  | install _ ih => exact ih (keeps_install_holdsOpen _ _ _ holds)
  | swap _ ih => exact ih ⟨holds.kind, holds.snapshot⟩
  | @inside _ _ _ inner next world entered rest there started _ ih =>
      by_cases same : world.active = slot
      · subst same
        rw [start?_of_open holds] at started
        cases started
      · exact ih ((keep_hooks_other same saved world).start? started holds)
  | past _ ih => exact ih (keeps_transaction_holdsOpen (Work.keeps_holdsOpen session _) _ holds)

/-! ## Opening and closing -/

namespace World

/-- The world in which the transaction of the active adapter starts its work. -/
def opened (world : World) : World := world.setAdapter world.active world.activeAdapter.opened

/-- The world in which the adapter in a slot has closed its transaction with the
given tables. -/
def closeWith (world : World) (slot : String) (tables : Keyed Table) : World :=
  world.setAdapter slot ((world.adapter slot).closeWith tables)

variable {world : World}

theorem store_adapter_closeWith (world : World) (slot : String) (tables : Keyed Table) :
    ((world.closeWith slot tables).adapter slot).store =
      { (world.adapter slot).store with tables, snapshot := none } := by
  simp [closeWith, Adapter.closeWith]

theorem holdsOpen_opened (memory : world.activeAdapter.kind = .memory) :
    HoldsOpen world.active world.activeAdapter.store.tables world.opened := by
  constructor
  · simpa [opened, Adapter.opened] using memory
  · simp [opened, Adapter.opened]

theorem begin_hooks_of_closed (memory : world.activeAdapter.kind = .memory)
    (closed : world.activeAdapter.store.snapshot = none) :
    (world.hooks world.active).begin world = (.ok (), world.opened) := by
  have begun := Adapter.begin_of_closed memory closed
  simp only [activeAdapter] at begun
  simp [hooks, onSlot, begun, opened, activeAdapter]

theorem commit_hooks_of_open (holds : HoldsOpen slot saved world) (start : World) :
    (start.hooks slot).commit world =
      (.ok (), world.closeWith slot (world.adapter slot).store.tables) := by
  simp [hooks, onSlot, Adapter.commit_of_open holds.kind holds.snapshot, closeWith]

theorem rollback_hooks_of_open (holds : HoldsOpen slot saved world) (start : World) :
    (start.hooks slot).rollback world = (.ok (), world.closeWith slot saved) := by
  simp [hooks, onSlot, Adapter.rollback_of_open holds.kind holds.snapshot, closeWith]

end World

/-- A transaction answers what its work answers. It closes with the tables that
the work left if the work succeeded, and with those from before if it failed. -/
theorem runOn_transaction {α : Type} {world : World} {work : Engine α}
    (memory : world.activeAdapter.kind = .memory)
    (closed : world.activeAdapter.store.snapshot = none)
    (kept : Keeps (HoldsOpen world.active world.activeAdapter.store.tables) work) :
    (Engine.transaction work).runOn world =
      match work.runOn world.opened with
      | (.ok value, left) =>
          (.ok value, left.closeWith world.active (left.adapter world.active).store.tables)
      | (.error error, left) =>
          (.error error, left.closeWith world.active world.activeAdapter.store.tables) := by
  have holds := kept world.opened (holdsOpen_opened memory)
  show (world.hooks world.active).run work.runOn world = _
  simp only [TransactionHooks.run, capabilities_hooks_memory memory, TransactionHooks.runManual,
    begin_hooks_of_closed memory closed]
  rcases ran : work.runOn world.opened with ⟨error | value, left⟩ <;> rw [ran] at holds
  · simp [rollback_hooks_of_open holds]
  · simp [commit_hooks_of_open holds, Except.map]

/-- Transactions of a memory adapter are all or nothing, whatever the work does.
The answer is that of the work. If the work fails, the tables are those from
before; if it succeeds, they are as the work left them. No transaction stays
open, and none can be opened at any point of the work while the adapter is
active. -/
theorem transaction_allOrNothing {α : Type} (session : Session) (work : Work α) (world : World)
    (memory : world.activeAdapter.kind = .memory)
    (closed : world.activeAdapter.store.snapshot = none) :
    let slot := world.active
    let before := world.activeAdapter.store.tables
    let ran := (work.run session).runOn world.opened
    let final := (Engine.transaction (work.run session)).runOn world
    final.1 = ran.1 ∧
      (∀ error, ran.1 = .error error → (final.2.adapter slot).store.tables = before) ∧
      (∀ value, ran.1 = .ok value →
        (final.2.adapter slot).store.tables = (ran.2.adapter slot).store.tables) ∧
      (final.2.adapter slot).store.snapshot = none ∧
      ∀ {β : Type} (rest : Work β) (here : World), work.Reaches session world.opened rest here →
        (here.adapter slot).store.snapshot = some before ∧
          (here.active = slot → ∀ {γ : Type} (nested : Engine γ),
            (Engine.transaction nested).runOn here =
              (.error (.transaction .alreadyOpen), here)) := by
  have opened : HoldsOpen world.active world.activeAdapter.store.tables world.opened :=
    holdsOpen_opened memory
  have whole := runOn_transaction memory closed (Work.keeps_holdsOpen session work)
  have refused : ∀ {β : Type} (rest : Work β) (here : World),
      work.Reaches session world.opened rest here →
        (here.adapter world.active).store.snapshot = some world.activeAdapter.store.tables ∧
          (here.active = world.active → ∀ {γ : Type} (nested : Engine γ),
            (Engine.transaction nested).runOn here =
              (.error (.transaction .alreadyOpen), here)) := by
    intro β rest here reaches
    have holds := reaches.holdsOpen opened
    refine ⟨holds.snapshot, ?_⟩
    intro active γ nested
    exact transaction_refused (active ▸ holds) nested
  rcases ran : (work.run session).runOn world.opened with ⟨error | value, left⟩
  · rw [ran] at whole
    simp only [whole, store_adapter_closeWith]
    exact ⟨trivial, fun _ _ => trivial, nofun, trivial, refused⟩
  · rw [ran] at whole
    simp only [whole, store_adapter_closeWith]
    exact ⟨trivial, nofun, fun _ _ => trivial, trivial, refused⟩

/-- Work that removes every row and then tries to open a transaction fails with
all rows back in place. -/
theorem removal_undone :
    let item : Entity Value := ⟨"Item", [], .ok, some⟩
    let row : Record := [("id", .text "1"), ("name", .text "a")]
    let world : World :=
      { adapters := [("main", { store := { tables := [("Item", [("1", row)])] } })]
        active := "main"
        supply := ⟨fun _ => "u", fun _ => "t", 0, 0⟩ }
    let work : Work Unit :=
      .issue (.remove item {}) fun _ => .transaction (.done (.ok ())) .done
    ((work.run {}).runOn world.opened).2.activeAdapter.store.tables = [("Item", [])] ∧
      ((Engine.transaction (work.run {})).runOn world).1 =
        .error (.transaction .alreadyOpen) ∧
      (((Engine.transaction (work.run {})).runOn world).2.adapter "main").store.tables =
        [("Item", [("1", row)])] := by
  intro item row world work
  obtain ⟨answer, undone, -⟩ := transaction_allOrNothing {} work world rfl rfl
  have failed : ((work.run {}).runOn world.opened).1 = .error (.transaction .alreadyOpen) := by
    rfl
  exact ⟨by rfl, answer.trans failed, undone _ failed⟩

end RecordQuery
