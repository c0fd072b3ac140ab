import RecordQuery.Proofs.TransactionHistory
import RecordQuery.Proofs.Work

/-!
# The adapter is found when a command runs

A command is a value until it is carried out, and may be prepared long before. Wherever
it runs, it is one and the same call on the adapter that is active there. Where several
values are saved in a row, each save finds its adapter for itself. A transaction
finds its adapter when it starts and keeps to it for all of its own calls, while the
commands inside go where the binding points when they run.
-/

namespace RecordQuery

/-! ## Engines as calls -/

/-- Make a call, and go on with another one if it succeeds. -/
def AdapterCall.andThen {α β : Type} (first : AdapterCall α) (second : α → AdapterCall β) :
    AdapterCall β := fun adapter supply =>
  match first adapter supply with
  | (.ok value, after, left) => second value after left
  | (.error error, after, left) => (.error error, after, left)

/-- What was run in a world is a call on its active adapter: the answer is the call's,
the active slot holds what the call leaves, and the other slots are as they were. -/
structure World.Called {α : Type} (world : World) (called : Except Error α × Adapter × Supply)
    (ran : Except Error α × World) : Prop where
  answer : ran.1 = called.1
  active : ran.2.active = world.active
  own : ran.2.activeAdapter = called.2.1
  others : ∀ slot, slot ≠ world.active → ran.2.adapter slot = world.adapter slot
  supply : ran.2.supply = called.2.2

namespace Engine

variable {α β : Type}

/-- An engine is one call, made on the adapter that is active when the engine runs. -/
def Resolves (engine : Engine α) (call : AdapterCall α) : Prop :=
  ∀ world : World, world.Called (call world.activeAdapter world.supply) (engine.runOn world)

theorem resolves_ofExcept (answer : Except Error α) :
    (ofExcept answer).Resolves fun adapter supply => (answer, adapter, supply) :=
  fun _ => ⟨rfl, rfl, rfl, fun _ _ => rfl, rfl⟩

theorem resolves_draw (drawing : Supply → α × Supply) :
    (ofFunction fun world =>
      (.ok (drawing world.supply).1, { world with supply := (drawing world.supply).2 })).Resolves
        fun adapter supply => (.ok (drawing supply).1, adapter, (drawing supply).2) :=
  fun _ => ⟨rfl, rfl, rfl, fun _ _ => rfl, rfl⟩

theorem resolves_call (call : AdapterCall α) : (Engine.call call).Resolves call :=
  fun world => ⟨rfl, rfl, world.adapter_setAdapter_same world.active _,
    fun _ apart => world.adapter_setAdapter_other apart.symm _, rfl⟩

/-- The second engine meets the adapter that the first one left. -/
theorem Resolves.bind {engine : Engine α} {next : α → Engine β} {first : AdapterCall α}
    {second : α → AdapterCall β} (resolves : engine.Resolves first)
    (later : ∀ value, (next value).Resolves (second value)) :
    (engine >>= next).Resolves (first.andThen second) := by
  intro world
  have called := resolves world
  rw [runOn_bind, AdapterCall.andThen]
  generalize first world.activeAdapter world.supply = answered at called ⊢
  generalize engine.runOn world = ran at called ⊢
  obtain ⟨answer, adapter, left⟩ := answered
  obtain ⟨error | value, after⟩ := ran <;> obtain ⟨rfl, active, rfl, others, rfl⟩ := called
  · exact ⟨rfl, active, rfl, others, rfl⟩
  · obtain ⟨answer, activeThen, own, othersThen, supply⟩ := later value after
    refine ⟨answer, activeThen.trans active, own, ?_, supply⟩
    intro slot apart
    rw [othersThen slot (active ▸ apart), others slot apart]

/-- Whatever is made of data calls and drawn texts is a call itself. -/
theorem Built.exists_resolves {engine : Engine α} (built : Built engine) :
    ∃ call, engine.Resolves call := by
  induction built with
  | ofExcept answer => exact ⟨_, resolves_ofExcept answer⟩
  | draw drawing => exact ⟨_, resolves_draw drawing⟩
  | call call => exact ⟨_, resolves_call call.perform⟩
  | bind _ _ first second =>
      obtain ⟨call, resolves⟩ := first
      obtain ⟨calls, later⟩ := Classical.axiomOfChoice second
      exact ⟨_, resolves.bind later⟩

end Engine

/-! ## Saves in a row -/

namespace Session

variable {α : Type} (session : Session) (entity : Entity α)

theorem runOn_saveEach_cons (item : Engine α) (items : List (Engine α)) (world : World) :
    (session.saveEach entity (item :: items)).runOn world =
      match item.runOn world with
      | (.error error, after) => (.error error, after)
      | (.ok value, there) =>
          match (session.save entity value .whole).runOn there with
          | (.error error, after) => (.error error, after)
          | (.ok saved, after) =>
              let (answer, final) := (session.saveEach entity items).runOn after
              (answer.map (saved :: ·), final) := by
  rw [saveEach, List.mapM_cons, Engine.runOn_bind, Engine.runOn_bind]
  rcases item.runOn world with ⟨error | value, there⟩
  · rfl
  · rcases saving : (session.save entity value .whole).runOn there with ⟨error | saved, after⟩
    · simp only [saving]
    · simp only [saving]
      rw [Engine.runOn_bind, saveEach]
      rcases (items.mapM _ : Engine (List α)).runOn after with ⟨error | others, final⟩ <;> rfl

/-- The courses of saves in a row. An item is handed out in the world that the save
before it has left, and may change that world. Its save is then one call, made on the
adapter that is active by that time. The first failure ends the row. -/
inductive SavesInTurn : List (Engine α) → World → Except Error (List α) × World → Prop where
  | done (world : World) : SavesInTurn [] world (.ok [], world)
  | withheld {item : Engine α} {items : List (Engine α)} {world after : World} {error : Error} :
      item.runOn world = (.error error, after) →
        SavesInTurn (item :: items) world (.error error, after)
  | failed {item : Engine α} {items : List (Engine α)} {world there after : World} {value : α}
      {error : Error} {call : AdapterCall α} :
      item.runOn world = (.ok value, there) →
      (session.save entity value .whole).Resolves call →
      there.Called (call there.activeAdapter there.supply) (.error error, after) →
        SavesInTurn (item :: items) world (.error error, after)
  | saved {item : Engine α} {items : List (Engine α)} {world there after final : World}
      {value saved : α} {answer : Except Error (List α)} {call : AdapterCall α} :
      item.runOn world = (.ok value, there) →
      (session.save entity value .whole).Resolves call →
      there.Called (call there.activeAdapter there.supply) (.ok saved, after) →
      SavesInTurn items after (answer, final) →
        SavesInTurn (item :: items) world (answer.map (saved :: ·), final)

theorem savesInTurn (items : List (Engine α)) (world : World) :
    session.SavesInTurn entity items world ((session.saveEach entity items).runOn world) := by
  induction items generalizing world with
  | nil => exact .done world
  | cons item items ih =>
      rw [runOn_saveEach_cons]
      rcases handed : item.runOn world with ⟨error | value, there⟩
      · exact .withheld handed
      · obtain ⟨call, resolves⟩ := (session.built_save entity value .whole).exists_resolves
        have called := resolves there
        rcases saving : (session.save entity value .whole).runOn there with ⟨error | saved, after⟩
        · rw [saving] at called
          simp only [saving]
          exact .failed handed resolves called
        · rw [saving] at called
          simp only [saving]
          exact .saved handed resolves called (ih after)

end Session

/-! ## Transactions keep to one adapter -/

namespace World

/-- The courses of a transaction on the adapter in a slot: the world in which its work
starts, if it starts, and the answer and the world at the end. Each call is made on the
adapter that the slot holds at that time, whatever slot is active. -/
inductive Pinned {α : Type} (world : World) (slot : String) (work : Engine α) :
    Option World → Except Error α × World → Prop where
  | unprotected {worked : Except Error α × World} :
      (world.adapter slot).kind.capabilities.native = false →
      (world.adapter slot).hasManual = false →
      work.runOn world = worked →
        Pinned world slot work (some world) worked
  | refused {error : Error} :
      (world.adapter slot).hasManual = true →
      (world.adapter slot).begin.1 = .error error →
        Pinned world slot work none
          (.error error, world.setAdapter slot (world.adapter slot).begin.2)
  | committed {value : α} {begun worked : World} :
      (world.adapter slot).hasManual = true →
      (world.adapter slot).begin.1 = .ok () →
      world.setAdapter slot (world.adapter slot).begin.2 = begun →
      work.runOn begun = (.ok value, worked) →
        Pinned world slot work (some begun)
          ((worked.adapter slot).commit.1.map fun _ => value,
            worked.setAdapter slot (worked.adapter slot).commit.2)
  | rolledBack {error : Error} {begun worked : World} :
      (world.adapter slot).hasManual = true →
      (world.adapter slot).begin.1 = .ok () →
      world.setAdapter slot (world.adapter slot).begin.2 = begun →
      work.runOn begun = (.error error, worked) →
        Pinned world slot work (some begun)
          (.error error, worked.setAdapter slot (worked.adapter slot).rollback.2)
  | skipped {answer : Except Error Unit} :
      (world.adapter slot).kind.capabilities.native = true →
      (world.adapter slot).enter.1 = some answer →
        Pinned world slot work none
          (answer.bind fun _ => .error (.transaction (.workNotRun (world.hooks slot).name)),
            world.setAdapter slot (world.adapter slot).enter.2)
  | native {outcome : Except Error α} {entered worked : World} :
      (world.adapter slot).kind.capabilities.native = true →
      (world.adapter slot).enter.1 = none →
      world.setAdapter slot (world.adapter slot).enter.2 = entered →
      work.runOn entered = (outcome, worked) →
        Pinned world slot work (some entered)
          (((worked.adapter slot).leave (TransactionHooks.withoutValue outcome)).1.bind fun _ =>
              outcome.mapError fun _ => .transaction (.workNotRun (world.hooks slot).name),
            worked.setAdapter slot
              ((worked.adapter slot).leave (TransactionHooks.withoutValue outcome)).2)

theorem onSlot_eq (slot : String) (call : Adapter → Except Error Unit × Adapter)
    {world after : World} {answer : Except Error Unit}
    (called : onSlot slot call world = (answer, after)) :
    (call (world.adapter slot)).1 = answer ∧
      world.setAdapter slot (call (world.adapter slot)).2 = after :=
  Prod.mk.inj called

theorem enter_hooks_eq {slot : String} {world state after : World}
    {answer : Option (Except Error Unit)}
    (entered : (world.hooks slot).enter state = (answer, after)) :
    (state.adapter slot).enter.1 = answer ∧
      state.setAdapter slot (state.adapter slot).enter.2 = after :=
  Prod.mk.inj entered

end World

/-- A transaction is pinned to the slot that is active when it starts. -/
theorem Engine.pinned_transaction {α : Type} (work : Engine α) (world : World) :
    world.Pinned world.active work ((world.hooks world.active).start? world)
      ((Engine.transaction work).runOn world) := by
  have course := (world.hooks world.active).course_run work.runOn world
  generalize (world.hooks world.active).history work.runOn world = events at course
  generalize ran : (world.hooks world.active).run work.runOn world = ended at course
  have same : (Engine.transaction work).runOn world = ended := ran
  rw [same, TransactionHooks.start?]
  cases course with
  | unprotected notNative notManual worked =>
      rw [notNative, notManual]
      exact .unprotected notNative notManual worked
  | notBegun notNative manual began =>
      rw [notNative, manual, began]
      obtain ⟨refused, rfl⟩ := World.onSlot_eq world.active Adapter.begin began
      exact .refused manual refused
  | undone notNative manual began worked called =>
      rw [notNative, manual, began]
      obtain ⟨opened, begun⟩ := World.onSlot_eq world.active Adapter.begin began
      obtain ⟨-, rfl⟩ := World.onSlot_eq world.active Adapter.rollback called
      exact .rolledBack manual opened begun worked
  | committed notNative manual began worked called =>
      rw [notNative, manual, began]
      obtain ⟨opened, begun⟩ := World.onSlot_eq world.active Adapter.begin began
      obtain ⟨rfl, rfl⟩ := World.onSlot_eq world.active Adapter.commit called
      exact .committed manual opened begun worked
  | skipped native came =>
      rw [native, came]
      obtain ⟨answered, rfl⟩ := World.enter_hooks_eq came
      exact .skipped native answered
  | native native came worked left =>
      rw [native, came]
      obtain ⟨entering, entered⟩ := World.enter_hooks_eq came
      obtain ⟨rfl, rfl⟩ := World.onSlot_eq world.active (Adapter.leave _) left
      exact .native native entering entered worked

namespace World

/-- Nothing but the adapter in one slot has changed, the active slot included. -/
structure Beside (slot : String) (world after : World) : Prop where
  active : after.active = world.active
  others : ∀ other, slot ≠ other → after.adapters.get? other = world.adapters.get? other

theorem beside_refl (slot : String) (world : World) : world.Beside slot world where
  active := rfl
  others := fun _ _ => rfl

theorem beside_setAdapter (slot : String) (world : World) (adapter : Adapter) :
    world.Beside slot (world.setAdapter slot adapter) where
  active := rfl
  others := by
    intro other apart
    simp [setAdapter, apart]

/-- Data calls do not touch the adapters that are not active. -/
theorem stable_inactive (slot : String) (adapter : Adapter) :
    Stable fun world => world.active ≠ slot ∧ world.adapters.get? slot = some adapter where
  supply := fun _ _ holds => holds
  tables := by
    intro world tables holds
    have beside := world.beside_setAdapter world.active (world.activeAdapter.withTables tables)
    exact ⟨holds.1, (beside.others slot holds.1).trans holds.2⟩

namespace Pinned

variable {α : Type} {world entered : World} {slot : String} {work : Engine α}
  {ran : Except Error α × World}

/-- A transaction whose work does not start touches its own slot only. -/
theorem beside_of_none (pinned : world.Pinned slot work none ran) : world.Beside slot ran.2 := by
  cases pinned with
  | refused => exact world.beside_setAdapter slot _
  | skipped => exact world.beside_setAdapter slot _

/-- The calls before the work and after it touch their own slot only. -/
theorem beside_of_some (pinned : world.Pinned slot work (some entered) ran) :
    world.Beside slot entered ∧ (work.runOn entered).2.Beside slot ran.2 := by
  cases pinned with
  | unprotected _ _ worked =>
      rw [worked]
      exact ⟨world.beside_refl slot, ran.2.beside_refl slot⟩
  | committed _ _ begun worked =>
      rw [worked]
      exact ⟨begun ▸ world.beside_setAdapter slot _, beside_setAdapter slot _ _⟩
  | rolledBack _ _ begun worked =>
      rw [worked]
      exact ⟨begun ▸ world.beside_setAdapter slot _, beside_setAdapter slot _ _⟩
  | native _ _ began worked =>
      rw [worked]
      exact ⟨began ▸ world.beside_setAdapter slot _, beside_setAdapter slot _ _⟩

end Pinned

end World

/-! ## The binding along a program -/

/-- What concerns the active slot: a command or a transaction finds the adapter of a
slot, or a swap to a slot gives its answer. -/
inductive BindingEvent where
  | resolved (slot : String)
  | swapped (slot : String) (answer : Except Error String)
  deriving DecidableEq

/-- Events that lead from one active slot to another. The slot that is resolved is the
active one, and a swap answers the slot that was active before it. -/
def BindingEvent.Lead : String → List BindingEvent → String → Prop
  | active, [], last => last = active
  | active, .resolved slot :: rest, last => slot = active ∧ Lead active rest last
  | active, .swapped slot answer :: rest, last => answer = .ok active ∧ Lead slot rest last

theorem BindingEvent.Lead.append {first middle last : String} {before after : List BindingEvent}
    (leads : Lead first before middle) (leadsOn : Lead middle after last) :
    Lead first (before ++ after) last := by
  induction before generalizing first with
  | nil =>
      cases leads
      exact leadsOn
  | cons event rest ih =>
      cases event with
      | resolved slot => exact ⟨leads.1, ih leads.2⟩
      | swapped slot answer => exact ⟨leads.1, ih leads.2⟩

namespace Work

open BindingEvent

/-- The events of a program, in order. Those inside a transaction count if its work
starts. -/
def bindings (session : Session) : {α : Type} → Work α → World → List BindingEvent
  | _, done _, _ => []
  | _, issue command next, world =>
      let (answer, after) := (command.run session).runOn world
      .resolved world.active :: (next answer).bindings session after
  | _, install slot adapter next, world =>
      let (answer, after) := (Engine.install slot adapter).runOn world
      (next answer).bindings session after
  | _, swap slot next, world =>
      let (answer, after) := (Engine.swap slot).runOn world
      .swapped slot answer :: (next answer).bindings session after
  | _, transaction inner next, world =>
      let (answer, after) := (Engine.transaction (inner.run session)).runOn world
      let inside :=
        match (world.hooks world.active).start? world with
        | some entered => inner.bindings session entered
        | none => []
      .resolved world.active :: (inside ++ (next answer).bindings session after)

/-- Only swaps change the active slot. -/
theorem lead_bindings (session : Session) {α : Type} (work : Work α) (world : World) :
    Lead world.active (work.bindings session world)
      ((work.run session).runOn world).2.active := by
  induction work generalizing world with
  | done outcome => rfl
  | issue command next ih =>
      obtain ⟨call, resolves⟩ := (command.built_run session).exists_resolves
      have later := ih ((command.run session).runOn world).1 ((command.run session).runOn world).2
      rw [(resolves world).active] at later
      exact ⟨rfl, later⟩
  | install slot adapter next ih =>
      have later := ih (.ok ()) ((Engine.install slot adapter).runOn world).2
      have kept : ((Engine.install slot adapter).runOn world).2.active = world.active := by
        simp only [Engine.install, Engine.ofFunction, Engine.runOn]
        split <;> rfl
      rwa [kept] at later
  | swap slot next ih => exact ⟨rfl, ih (.ok world.active) (world.activate slot)⟩
  | transaction inner next innerIH nextIH =>
      have pinned := Engine.pinned_transaction (inner.run session) world
      have later := nextIH ((Engine.transaction (inner.run session)).runOn world).1
        ((Engine.transaction (inner.run session)).runOn world).2
      refine ⟨rfl, ?_⟩
      cases started : (world.hooks world.active).start? world with
      | none =>
          rw [started] at pinned
          rw [pinned.beside_of_none.active] at later
          exact later
      | some entered =>
          rw [started] at pinned
          obtain ⟨before, behind⟩ := pinned.beside_of_some
          have inside := innerIH entered
          rw [before.active] at inside
          rw [behind.active] at later
          exact inside.append later

/-- An adapter is untouched as long as its slot is not resolved. -/
theorem get?_of_notMem_bindings (session : Session) {α : Type} (work : Work α) {world : World}
    {slot : String} {adapter : Adapter} (present : world.adapters.get? slot = some adapter)
    (unresolved : .resolved slot ∉ work.bindings session world) :
    ((work.run session).runOn world).2.adapters.get? slot = some adapter := by
  induction work generalizing world with
  | done outcome => exact present
  | issue command next ih =>
      obtain ⟨apart, later⟩ := not_or.1 (mt List.mem_cons.2 unresolved)
      have inactive : world.active ≠ slot := fun same => apart (same ▸ rfl)
      have kept := command.keeps_run (World.stable_inactive slot adapter) session world
        ⟨inactive, present⟩
      exact ih _ kept.2 later
  | install other fresh next ih =>
      have kept : ((Engine.install other fresh).runOn world).2.adapters.get? slot =
          some adapter := by
        simp only [Engine.install, Engine.ofFunction, Engine.runOn]
        split
        · exact present
        · rename_i empty
          have apart : other ≠ slot := fun same => empty (by simp [Keyed.has, same, present])
          exact ((world.beside_setAdapter other fresh).others slot apart).trans present
      exact ih _ kept unresolved
  | swap other next ih =>
      obtain ⟨-, later⟩ := not_or.1 (mt List.mem_cons.2 unresolved)
      exact ih _ present later
  | transaction inner next innerIH nextIH =>
      have pinned := Engine.pinned_transaction (inner.run session) world
      obtain ⟨apart, rest⟩ := not_or.1 (mt List.mem_cons.2 unresolved)
      obtain ⟨inside, later⟩ := not_or.1 (mt List.mem_append.2 rest)
      have inactive : world.active ≠ slot := fun same => apart (same ▸ rfl)
      refine nextIH _ ?_ later
      cases started : (world.hooks world.active).start? world with
      | none =>
          rw [started] at pinned
          exact (pinned.beside_of_none.others slot inactive).trans present
      | some entered =>
          rw [started] at pinned inside
          obtain ⟨before, behind⟩ := pinned.beside_of_some
          have worked := innerIH ((before.others slot inactive).trans present) inside
          exact (behind.others slot inactive).trans worked

end Work

/-- Commands find their adapter when they run, and transactions when they start. Every
command is one call, made on whatever adapter is active where it runs, also if it was
prepared long before. Saves in a row are such calls one by one, also if the adapter is
swapped between them. A transaction is pinned to the slot that is active when it starts.
Along a program the active slot is the one last swapped to, a swap answers the one
before it, and an adapter whose slot is not active for any command or transaction stays
as it is. -/
theorem adapters_boundLate {α : Type} (session : Session) (work : Work α) (world : World) :
    let events := work.bindings session world
    let after := ((work.run session).runOn world).2
    (∀ {β : Type} (command : Command β), ∃ call, (command.run session).Resolves call) ∧
      (∀ {β : Type} (entity : Entity β) (items : List (Engine β)) (here : World),
        session.SavesInTurn entity items here
          ((session.saveEach entity items).runOn here)) ∧
      (∀ {β : Type} (inner : Work β) (here : World),
        here.Pinned here.active (inner.run session) ((here.hooks here.active).start? here)
          ((Engine.transaction (inner.run session)).runOn here)) ∧
      BindingEvent.Lead world.active events after.active ∧
      ∀ slot adapter, world.adapters.get? slot = some adapter → .resolved slot ∉ events →
        after.adapters.get? slot = some adapter := by
  intro events after
  refine ⟨?_, ?_, ?_, work.lead_bindings session world, ?_⟩
  · intro β command
    exact (command.built_run session).exists_resolves
  · intro β entity items here
    exact session.savesInTurn entity items here
  · intro β inner here
    exact Engine.pinned_transaction (inner.run session) here
  · intro slot adapter present unresolved
    exact work.get?_of_notMem_bindings session present unresolved

/-- A creation is prepared, and the active slot is swapped before it runs. Inside a
transaction the work creates a row, swaps back, creates another one and fails. The
transaction is rolled back in the slot where it was opened, so the row that the work
created elsewhere stays. -/
theorem adapters_boundLate_swaps :
    let creation (text : String) : Command Value :=
      .create ⟨"Item", [], .ok, some⟩ (.ok (.object [("id", .text text)]))
    let prepared := creation "1"
    let inside : Work Unit :=
      .issue (creation "2") fun _ => .swap "a" fun _ => .issue (creation "3") fun _ =>
        .done (.error (.backend "stop"))
    let work : Work Unit :=
      .swap "b" fun _ => .issue prepared fun _ => .transaction inside fun _ =>
        .issue prepared fun _ => .done (.ok ())
    let world : World :=
      { adapters := [("a", {}), ("b", {}), ("c", {})]
        active := "a"
        supply := ⟨fun _ => "u", fun _ => "t", 0, 0⟩ }
    let after := ((work.run {}).runOn world).2
    let keys (slot : String) := ((after.adapter slot).store.table "Item").keys
    work.bindings {} world = [.swapped "b" (.ok "a"), .resolved "b", .resolved "b",
        .resolved "b", .swapped "a" (.ok "b"), .resolved "a", .resolved "a"] ∧
      after.active = "a" ∧ keys "a" = ["3", "1"] ∧ keys "b" = ["1"] ∧
      (after.adapter "b").store.snapshot.isNone ∧ after.adapters.get? "c" = some {} := by
  intro creation prepared inside work world after keys
  obtain ⟨-, -, -, -, untouched⟩ := adapters_boundLate {} work world
  refine ⟨by decide +kernel, by decide +kernel, by decide +kernel, by decide +kernel,
    by decide +kernel, ?_⟩
  exact untouched "c" {} rfl (by decide +kernel)

end RecordQuery
