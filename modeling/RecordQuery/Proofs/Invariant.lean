import RecordQuery.Proofs.AdapterCalls
import RecordQuery.Proofs.Keyed
import RecordQuery.World

/-!
# Invariants of worlds

An invariant is kept by an engine if it holds afterwards whenever it held before,
also when the engine fails. Engines built from engines that keep an invariant
keep it as well, so a command is checked call by call.
-/

namespace RecordQuery

namespace World

/-- Putting the adapter of an occupied slot back changes nothing. -/
theorem setAdapter_adapter {world : World} {slot : String} (present : world.adapters.has slot) :
    world.setAdapter slot (world.adapter slot) = world := by
  obtain ⟨adapter, found⟩ := Option.isSome_iff_exists.1 present
  have same : world.adapter slot = adapter := by simp [World.adapter, found]
  rw [same, setAdapter, Keyed.put_of_get? found]

/-- What data calls may do to a world: draw texts, and change the tables of the
active adapter. -/
structure Stable (invariant : World → Prop) : Prop where
  supply : ∀ (world : World) (supply : Supply), invariant world → invariant { world with supply }
  tables : ∀ (world : World) (tables : Keyed Table), invariant world →
    invariant (world.setAdapter world.active (world.activeAdapter.withTables tables))

/-- What holds of the adapter in a slot whatever its tables are. -/
theorem Stable.of_adapter {slot : String} {holds : Adapter → Prop}
    (anyTables : ∀ adapter tables, holds adapter → holds (adapter.withTables tables)) :
    Stable fun world => holds (world.adapter slot) where
  supply := fun _ _ held => held
  tables := by
    intro world tables held
    by_cases same : world.active = slot
    · subst same
      simpa [activeAdapter] using anyTables _ tables held
    · simpa [same] using held

end World

namespace Engine

variable {α β : Type} {invariant : World → Prop}

/-- An engine keeps an invariant, whether it succeeds or fails. -/
def Keeps (invariant : World → Prop) (engine : Engine α) : Prop :=
  ∀ world, invariant world → invariant (engine.runOn world).2

theorem keeps_pure (value : α) : Keeps invariant (pure value : Engine α) :=
  fun _ holds => holds

theorem keeps_throw (error : Error) : Keeps invariant (throw error : Engine α) :=
  fun _ holds => holds

theorem keeps_ofExcept (answer : Except Error α) : Keeps invariant (ofExcept answer) :=
  fun _ holds => holds

theorem keeps_bind {engine : Engine α} {next : α → Engine β} (first : Keeps invariant engine)
    (second : ∀ value, Keeps invariant (next value)) : Keeps invariant (engine >>= next) := by
  intro world holds
  have kept := first world holds
  rw [runOn_bind]
  rcases ran : engine.runOn world with ⟨error | value, after⟩ <;> rw [ran] at kept
  · exact kept
  · exact second value after kept

theorem keeps_map {engine : Engine α} (change : α → β) (kept : Keeps invariant engine) :
    Keeps invariant (change <$> engine) := by
  rw [map_eq_pure_bind]
  apply keeps_bind kept
  intro value
  exact keeps_pure (change value)

theorem keeps_call (stable : World.Stable invariant) (call : DataCall α) :
    Keeps invariant (Engine.call call.perform) := by
  intro world holds
  obtain ⟨tables, changed⟩ := call.perform_frame world.activeAdapter world.supply
  have kept := stable.supply _ (call.perform world.activeAdapter world.supply).2.2
    (stable.tables world tables holds)
  rw [← changed] at kept
  exact kept

end Engine

/-! ## Transactions -/

/-- The state in which a transaction starts its work, if it starts it. -/
def TransactionHooks.start? {σ : Type} (hooks : TransactionHooks σ) (state : σ) : Option σ :=
  if hooks.capabilities.native then
    match hooks.enter state with
    | (none, entered) => some entered
    | (some _, _) => none
  else if hooks.capabilities.manual then
    match hooks.begin state with
    | (.ok (), begun) => some begun
    | (.error _, _) => none
  else some state

/-- The calls of an adapter keep an invariant of the state that they work on. -/
structure TransactionHooks.Keep {σ : Type} (hooks : TransactionHooks σ) (invariant : σ → Prop) :
    Prop where
  begin : ∀ state, invariant state → invariant (hooks.begin state).2
  commit : ∀ state, invariant state → invariant (hooks.commit state).2
  rollback : ∀ state, invariant state → invariant (hooks.rollback state).2
  enter : ∀ state, invariant state → invariant (hooks.enter state).2
  leave : ∀ outcome state, invariant state → invariant (hooks.leave outcome state).2

namespace TransactionHooks.Keep

variable {σ α : Type} {hooks : TransactionHooks σ} {invariant : σ → Prop}
  {work : σ → Except Error α × σ}

theorem runNative (keep : hooks.Keep invariant)
    (kept : ∀ state, invariant state → invariant (work state).2) {state : σ}
    (holds : invariant state) : invariant (hooks.runNative work state).2 := by
  have inside : invariant (hooks.transactional work state).2 := by
    have entered := keep.enter state holds
    simp only [transactional]
    split
    case h_1 answer _ came => rwa [came] at entered
    case h_2 _ came =>
      rw [came] at entered
      exact keep.leave _ _ (kept _ entered)
  simp only [TransactionHooks.runNative]
  split <;> rename_i came <;> rwa [came] at inside

theorem runManual (keep : hooks.Keep invariant)
    (kept : ∀ state, invariant state → invariant (work state).2) {state : σ}
    (holds : invariant state) : invariant (hooks.runManual work state).2 := by
  have begun := keep.begin state holds
  simp only [TransactionHooks.runManual]
  split
  case h_1 came => rwa [came] at begun
  case h_2 came =>
    rw [came] at begun
    have worked := kept _ begun
    split <;> rename_i went <;> rw [went] at worked
    · exact keep.commit _ worked
    · exact keep.rollback _ worked

/-- A transaction keeps what its calls and its work keep. -/
theorem run (keep : hooks.Keep invariant)
    (kept : ∀ state, invariant state → invariant (work state).2) {state : σ}
    (holds : invariant state) : invariant (hooks.run work state).2 := by
  simp only [TransactionHooks.run]
  split
  · exact keep.runNative kept holds
  · split
    · exact keep.runManual kept holds
    · exact kept state holds

theorem start? (keep : hooks.Keep invariant) {state entered : σ}
    (started : hooks.start? state = some entered) (holds : invariant state) :
    invariant entered := by
  have native := keep.enter state holds
  have manual := keep.begin state holds
  simp only [TransactionHooks.start?] at started
  split at started
  · split at started <;> simp_all
  · split at started
    · split at started <;> simp_all
    · simp_all

end TransactionHooks.Keep

end RecordQuery
