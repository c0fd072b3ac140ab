import RecordQuery.Adapter

/-!
# Worlds and engines

A world holds adapters in named slots, says which slot is active, and supplies
ids and times. An engine is a computation that changes a world and may fail; a
failure keeps the changes made before it. Commands find the active adapter when
they run, so a swap between preparing and running a command takes effect.
-/

namespace RecordQuery

/-- Everything commands read and change. -/
structure World where
  adapters : Keyed Adapter
  active : String
  supply : Supply

/-- A computation on a world. -/
abbrev Engine (α : Type) := ExceptT Error (StateM World) α

namespace World

/-- The adapter in a slot. An empty slot counts as a fresh memory adapter. -/
def adapter (world : World) (slot : String) : Adapter := (world.adapters.get? slot).getD {}

/-- The world with another adapter in a slot. -/
def setAdapter (world : World) (slot : String) (adapter : Adapter) : World :=
  { world with adapters := world.adapters.put slot adapter }

/-- The active adapter. -/
def activeAdapter (world : World) : Adapter := world.adapter world.active

/-- Make a slot's adapter the active one. -/
def activate (world : World) (slot : String) : World := { world with active := slot }

@[simp] theorem adapter_setAdapter (world : World) (slot other : String) (adapter : Adapter) :
    (world.setAdapter slot adapter).adapter other =
      if slot = other then adapter else world.adapter other := by
  simp only [World.adapter, setAdapter, Keyed.get?_put]
  split <;> rfl

theorem adapter_setAdapter_same (world : World) (slot : String) (adapter : Adapter) :
    (world.setAdapter slot adapter).adapter slot = adapter := by simp

theorem adapter_setAdapter_other (world : World) {slot other : String} (apart : slot ≠ other)
    (adapter : Adapter) : (world.setAdapter slot adapter).adapter other = world.adapter other := by
  simp [apart]

@[simp] theorem activeAdapter_setAdapter (world : World) (adapter : Adapter) :
    (world.setAdapter world.active adapter).activeAdapter = adapter :=
  world.adapter_setAdapter_same world.active adapter

/-- Slots and supply are changed apart from each other. -/
@[simp] theorem setAdapter_withSupply (world : World) (supply : Supply) (slot : String)
    (adapter : Adapter) :
    World.setAdapter { world with supply } slot adapter =
      { world.setAdapter slot adapter with supply } := rfl

@[simp] theorem setAdapter_withOwnSupply (world : World) (slot : String) (adapter : Adapter) :
    { world.setAdapter slot adapter with supply := world.supply } =
      world.setAdapter slot adapter := rfl

@[simp] theorem adapter_withSupply (world : World) (supply : Supply) :
    World.adapter { world with supply } = world.adapter := rfl

@[simp] theorem activeAdapter_withSupply (world : World) (supply : Supply) :
    World.activeAdapter { world with supply } = world.activeAdapter := rfl

/-- Apply a transaction call to the adapter in a slot. -/
def onSlot (slot : String) (call : Adapter → Except Error Unit × Adapter) (world : World) :
    Except Error Unit × World :=
  let (answer, adapter) := call (world.adapter slot)
  (answer, world.setAdapter slot adapter)

/-- The transaction calls of the adapter in a slot. -/
def hooks (world : World) (slot : String) : TransactionHooks World where
  name := (world.adapter slot).kind.name
  capabilities := (world.adapter slot).kind.capabilities
  begin := onSlot slot Adapter.begin
  commit := onSlot slot Adapter.commit
  rollback := onSlot slot Adapter.rollback
  enter := fun state =>
    let (answer, adapter) := (state.adapter slot).enter
    (answer, state.setAdapter slot adapter)
  leave := fun outcome => onSlot slot (Adapter.leave outcome)

end World

namespace Engine

variable {α β : Type}

/-- The engine that is a function on worlds. -/
def ofFunction (run : World → Except Error α × World) : Engine α := run

/-- The answer and the world afterwards. -/
def runOn (engine : Engine α) (world : World) : Except Error α × World := engine world

/-- A call on the adapter that is active now. -/
def call (call : AdapterCall α) : Engine α := ofFunction fun world =>
  let (answer, adapter, supply) := call world.activeAdapter world.supply
  (answer, { world.setAdapter world.active adapter with supply })

/-- An answer that changes nothing. -/
def ofExcept (answer : Except Error α) : Engine α := ofFunction fun world => (answer, world)

/-- Draw a time. -/
def drawTime : Engine String := ofFunction fun world =>
  (.ok world.supply.time, { world with supply := world.supply.afterTime })

/-- Fill in the ids of a record's children. -/
def completeChildren (settings : Settings) (record : Record) : Engine Record :=
  ofFunction fun world =>
    let (completed, supply) := assignChildIds settings world.supply record
    (.ok completed, { world with supply })

/-- Give a record an id if it has none. -/
def completeId (settings : Settings) (entity : String) (record : Record) : Engine Record :=
  ofFunction fun world =>
    if Record.hasId settings record then (.ok record, world)
    else
      (.ok (Record.ensureId settings entity world.supply.id record),
        { world with supply := world.supply.afterId })

/-- Make another slot's adapter active. The answer is the slot active before. -/
def swap (slot : String) : Engine String := ofFunction fun world =>
  (.ok world.active, world.activate slot)

/-- Run work in a transaction of the adapter that is active at the start. -/
def transaction (work : Engine α) : Engine α := ofFunction fun world =>
  (world.hooks world.active).run work.runOn world

/-! ## Runs -/

@[simp] theorem runOn_pure (value : α) (world : World) :
    (pure value : Engine α).runOn world = (.ok value, world) := rfl

@[simp] theorem runOn_throw (error : Error) (world : World) :
    (throw error : Engine α).runOn world = (.error error, world) := rfl

@[simp] theorem runOn_ofExcept (answer : Except Error α) (world : World) :
    (ofExcept answer).runOn world = (answer, world) := rfl

@[simp] theorem runOn_drawTime (world : World) :
    drawTime.runOn world =
      (.ok world.supply.time, { world with supply := world.supply.afterTime }) := rfl

@[simp] theorem runOn_completeChildren (settings : Settings) (record : Record) (world : World) :
    (completeChildren settings record).runOn world =
      (.ok (assignChildIds settings world.supply record).1,
        { world with supply := (assignChildIds settings world.supply record).2 }) := rfl

@[simp] theorem runOn_completeId (settings : Settings) (entity : String) (record : Record)
    (world : World) :
    (completeId settings entity record).runOn world =
      if Record.hasId settings record then (.ok record, world)
      else
        (.ok (Record.ensureId settings entity world.supply.id record),
          { world with supply := world.supply.afterId }) := rfl

@[simp] theorem runOn_call (call : AdapterCall α) (world : World) :
    (Engine.call call).runOn world =
      ((call world.activeAdapter world.supply).1,
        { world.setAdapter world.active (call world.activeAdapter world.supply).2.1 with
          supply := (call world.activeAdapter world.supply).2.2 }) := rfl

/-- An engine that goes on does so in the world that is left, unless it fails. -/
@[simp] theorem runOn_bind (engine : Engine α) (next : α → Engine β) (world : World) :
    (engine >>= next).runOn world =
      match engine.runOn world with
      | (.ok value, after) => (next value).runOn after
      | (.error error, after) => (.error error, after) := by
  simp only [runOn, bind, ExceptT.bind, ExceptT.mk, StateT.bind, ExceptT.bindCont]
  rcases engine world with ⟨_ | _, after⟩ <;> rfl

@[simp] theorem runOn_map (change : α → β) (engine : Engine α) (world : World) :
    (change <$> engine).runOn world =
      ((engine.runOn world).1.map change, (engine.runOn world).2) := by
  rw [map_eq_pure_bind, runOn_bind]
  rcases engine.runOn world with ⟨_ | _, after⟩ <;> rfl

end Engine

end RecordQuery
