import RecordQuery.Proofs.TransactionHistory
import RecordQuery.Proofs.Work

/-!
# What a failed transaction leaves behind

Manual transactions over a memory store, where any call to begin, commit or roll
back may fail. If beginning fails, nothing has happened yet. If the work fails, it
is rolled back. If committing fails, the transaction just ends: its effects stay,
and it stays open.
-/

namespace RecordQuery

/-! ## Work that only issues commands -/

/-- A program that issues commands and does nothing else. -/
inductive Work.OnlyCommands : {α : Type} → Work α → Prop where
  | done {α : Type} (outcome : Except Error α) : OnlyCommands (.done outcome)
  | issue {α β : Type} (command : Command β) {next : Except Error β → Work α} :
      (∀ answer, OnlyCommands (next answer)) → OnlyCommands (.issue command next)

theorem Work.OnlyCommands.keeps_run {α : Type} {work : Work α} (commands : work.OnlyCommands)
    {invariant : World → Prop} (stable : World.Stable invariant) (session : Session) :
    Engine.Keeps invariant (work.run session) := by
  induction commands with
  | done outcome => exact Engine.keeps_ofExcept outcome
  | issue command _ ih => exact Engine.keeps_andThen (command.keeps_run stable session) ih

/-! ## Calls that may fail -/

namespace Adapter

/-- What a transaction call on an adapter may answer and leave: it takes its step on
the store, or it fails with an error of the backend and without effect. -/
inductive StepsOrFails (step : Store → Except Error Unit × Store) (adapter : Adapter) :
    Except Error Unit → Adapter → Prop where
  | steps {answer : Except Error Unit} {after : Adapter} :
      step adapter.store = (answer, after.store) → after.kind = adapter.kind →
        StepsOrFails step adapter answer after
  | fails (text : String) : StepsOrFails step adapter (.error (.backend text)) adapter

/-- A transaction is open that would return to the given tables. -/
structure Pending (kind : AdapterKind) (saved : Keyed Table) (adapter : Adapter) : Prop where
  kind : adapter.kind = kind
  snapshot : adapter.store.snapshot = some saved

variable {kind : AdapterKind} {saved : Keyed Table} {adapter after : Adapter}
  {answer : Except Error Unit}

namespace StepsOrFails

theorem begin_of_closed (call : adapter.StepsOrFails Store.begin answer after)
    (closed : adapter.store.snapshot = none) :
    (answer = .ok () ∧ after.Pending adapter.kind adapter.store.tables) ∨
      (answer ≠ .ok () ∧ after = adapter) := by
  cases call with
  | fails => exact .inr ⟨nofun, rfl⟩
  | steps taken sameKind =>
      simp only [Store.begin, closed, Prod.mk.injEq] at taken
      obtain ⟨rfl, store⟩ := taken
      exact .inl ⟨rfl, sameKind, by rw [← store]⟩

theorem commit_of_pending (call : adapter.StepsOrFails Store.commit answer after)
    (pending : adapter.Pending kind saved) : answer = .ok () ∨ after = adapter := by
  cases call with
  | fails => exact .inr rfl
  | steps taken =>
      simp only [Store.commit, pending.snapshot, Prod.mk.injEq] at taken
      exact .inl taken.1.symm

theorem rollback_of_pending (call : adapter.StepsOrFails Store.rollback answer after)
    (pending : adapter.Pending kind saved) :
    answer ≠ .ok () ∨ (after.store.tables = saved ∧ after.store.snapshot = none) := by
  cases call with
  | fails => exact .inl nofun
  | steps taken =>
      simp only [Store.rollback, pending.snapshot, Prod.mk.injEq] at taken
      exact .inr (by simp [← taken.2])

end StepsOrFails

/-! ### Adapters that refuse calls -/

/-- A call that is not refused takes its step, be it counted or not. -/
theorem stepsOrFails_unlessRefused (operation : AdapterOperation)
    {step : Store → Except Error Unit × Store} {counted : Adapter}
    (sameStore : counted.store = adapter.store) (sameKind : counted.kind = adapter.kind) :
    let called := if adapter.kind.refuses operation then (.error operation.failure, adapter)
      else counted.onStore step
    adapter.StepsOrFails step called.1 called.2 := by
  intro called
  by_cases refused : adapter.kind.refuses operation
  · rw [show called = _ from if_pos refused]
    exact .fails _
  · rw [show called = _ from if_neg refused]
    exact .steps (by rw [onStore, sameStore]) sameKind

theorem countCommit_kind (adapter : Adapter) : adapter.countCommit.kind = adapter.kind := by
  rw [countCommit]
  split <;> rfl

theorem countRollback_kind (adapter : Adapter) : adapter.countRollback.kind = adapter.kind := by
  rw [countRollback]
  split <;> rfl

theorem stepsOrFails_begin (manual : adapter.hasManual) :
    adapter.StepsOrFails Store.begin adapter.begin.1 adapter.begin.2 := by
  simpa [begin, manual] using stepsOrFails_unlessRefused .begin rfl rfl

theorem stepsOrFails_commit (manual : adapter.hasManual) :
    adapter.StepsOrFails Store.commit adapter.commit.1 adapter.commit.2 := by
  simpa [commit, manual] using
    stepsOrFails_unlessRefused .commit adapter.countCommit_store adapter.countCommit_kind

theorem stepsOrFails_rollback (manual : adapter.hasManual) :
    adapter.StepsOrFails Store.rollback adapter.rollback.1 adapter.rollback.2 := by
  simpa [rollback, manual] using
    stepsOrFails_unlessRefused .rollback adapter.countRollback_store adapter.countRollback_kind

end Adapter

namespace World

/-- A transaction call on the adapter in a slot may fail, as long as the slot holds an
adapter of this kind. -/
def MayFail (slot : String) (kind : AdapterKind) (step : Store → Except Error Unit × Store)
    (call : World → Except Error Unit × World) : Prop :=
  ∀ world : World, (world.adapter slot).kind = kind →
    (world.adapter slot).StepsOrFails step (call world).1 ((call world).2.adapter slot)

/-- Manual transactions of an adapter over the memory store in a slot, any of whose
calls may fail. -/
structure Brittle (slot : String) (kind : AdapterKind) (hooks : TransactionHooks World) :
    Prop where
  notNative : hooks.capabilities.native = false
  manual : hooks.capabilities.manual = true
  begin : MayFail slot kind Store.begin hooks.begin
  commit : MayFail slot kind Store.commit hooks.commit
  rollback : MayFail slot kind Store.rollback hooks.rollback

theorem mayFail_onSlot {slot : String} {kind : AdapterKind}
    {step : Store → Except Error Unit × Store} {call : Adapter → Except Error Unit × Adapter}
    (stepsOrFails : ∀ adapter : Adapter, adapter.kind = kind →
      adapter.StepsOrFails step (call adapter).1 (call adapter).2) :
    MayFail slot kind step (onSlot slot call) := by
  intro world holds
  simpa [onSlot] using stepsOrFails (world.adapter slot) holds

/-- An adapter that offers manual transactions of its own. -/
theorem brittle_hooks (world : World) (slot : String)
    (manual : (world.adapter slot).kind.capabilities.manual) :
    Brittle slot (world.adapter slot).kind (world.hooks slot) where
  notNative := by
    cases kind : (world.adapter slot).kind <;>
      simp_all [hooks, AdapterKind.capabilities]
  manual := manual
  begin := mayFail_onSlot fun _ sameKind =>
    Adapter.stepsOrFails_begin (by rwa [Adapter.hasManual, sameKind])
  commit := mayFail_onSlot fun _ sameKind =>
    Adapter.stepsOrFails_commit (by rwa [Adapter.hasManual, sameKind])
  rollback := mayFail_onSlot fun _ sameKind =>
    Adapter.stepsOrFails_rollback (by rwa [Adapter.hasManual, sameKind])

theorem stable_pending (slot : String) (kind : AdapterKind) (saved : Keyed Table) :
    Stable fun world => (world.adapter slot).Pending kind saved :=
  Stable.of_adapter fun _ _ pending => ⟨pending.kind, pending.snapshot⟩

end World

/-- A failed transaction leaves the tables as they were and no transaction open,
unless what failed is the call to commit. -/
theorem failedTransaction_leavesNothing_iff {α : Type} (session : Session) {work : Work α}
    (commands : work.OnlyCommands) {hooks : TransactionHooks World} {world : World}
    (brittle : World.Brittle world.active world.activeAdapter.kind hooks)
    (closed : world.activeAdapter.store.snapshot = none) {error : Error}
    (failed : (hooks.run (work.run session).runOn world).1 = .error error)
    (rolledBack : ∀ reason,
      .answered .rollback (.error reason) ∉ hooks.history (work.run session).runOn world) :
    let left := ((hooks.run (work.run session).runOn world).2.adapter world.active).store
    (left.tables = world.activeAdapter.store.tables ∧ left.snapshot = none) ↔
      ∀ reason,
        .answered .commit (.error reason) ∉ hooks.history (work.run session).runOn world := by
  dsimp only
  have course := hooks.course_run (work.run session).runOn world
  have beginCall := (brittle.begin world rfl).begin_of_closed closed
  have stillOpen : ∀ {begun worked : World} {outcome : Except Error α},
      hooks.begin world = (.ok (), begun) → (work.run session).runOn begun = (outcome, worked) →
        (worked.adapter world.active).Pending world.activeAdapter.kind
          world.activeAdapter.store.tables := by
    intro begun worked outcome began ran
    rw [began] at beginCall
    rcases beginCall with ⟨_, opened⟩ | ⟨notBegun, _⟩
    · have kept := commands.keeps_run (World.stable_pending _ _ _) session begun opened
      rwa [ran] at kept
    · exact absurd rfl notBegun
  generalize hooks.history (work.run session).runOn world = events at course rolledBack ⊢
  generalize hooks.run (work.run session).runOn world = ended at course failed ⊢
  cases course with
  | unprotected _ notManual => simp [brittle.manual] at notManual
  | notBegun _ _ began =>
      rw [began] at beginCall
      rcases beginCall with ⟨impossible, _⟩ | ⟨_, same⟩
      · cases impossible
      · simp only [same]
        exact ⟨fun _ => by simp, fun _ => ⟨rfl, closed⟩⟩
  | @undone _ answer _ _ _ _ _ began ran rolled =>
      have pending := stillOpen began ran
      have call := (brittle.rollback _ pending.kind).rollback_of_pending pending
      rw [rolled] at call
      rcases call with notRolled | back
      · cases answer with
        | ok _ => exact absurd rfl notRolled
        | error reason => exact absurd (by simp) (rolledBack reason)
      · simpa using back
  | @committed _ answer _ _ _ _ _ began ran closing =>
      have pending := stillOpen began ran
      have call := (brittle.commit _ pending.kind).commit_of_pending pending
      rw [closing] at call
      cases answer with
      | ok _ => simp [Except.map] at failed
      | error reason =>
          rcases call with impossible | same
          · cases impossible
          · simp [same, pending.snapshot]
  | skipped native | native native => simp [brittle.notNative] at native

/-- Work that creates a row and then fails leaves nothing behind, also on an adapter
that could not have committed it. -/
theorem failedTransaction_leavesNothing_undone :
    let item : Entity Value := ⟨"Item", [], .ok, some⟩
    let adapter : Adapter := { kind := .faulty [.commit] }
    let world : World := ⟨[("main", adapter)], "main", ⟨fun _ => "u", fun _ => "t", 0, 0⟩⟩
    let work : Work Unit :=
      .issue (.create item (.ok (.object []))) fun _ => .done (.error .settings)
    let left := (((Engine.transaction (work.run {})).runOn world).2.adapter "main").store
    left.tables = adapter.store.tables ∧ left.snapshot = none := by
  intro item adapter world work left
  have commands : work.OnlyCommands := .issue _ fun _ => .done _
  have failed : ((world.hooks "main").run (work.run {}).runOn world).1 = .error .settings := rfl
  have history : (world.hooks "main").history (work.run {}).runOn world =
      [.answered .begin (.ok ()), .worked (.error .settings), .answered .rollback (.ok ())] := rfl
  have leavesNothing := failedTransaction_leavesNothing_iff {} commands
    (world.brittle_hooks "main" rfl) rfl failed (by rw [history]; simp)
  exact leavesNothing.2 (by rw [history]; simp)

/-- Committing can fail with the effects of the work in place and the transaction
open, although no rollback failed. -/
theorem not_failedTransaction_leavesNothing :
    let item : Entity Value := ⟨"Item", [], .ok, some⟩
    let row : Record := [("id", .text "1"), ("createdAt", .text "c")]
    let adapter : Adapter := { kind := .faulty [.commit] }
    let world : World := ⟨[("main", adapter)], "main", ⟨fun _ => "u", fun _ => "t", 0, 0⟩⟩
    let work : Work Value := .issue (.create item (.ok (.object row))) .done
    let ended := (Engine.transaction (work.run {})).runOn world
    let left := (ended.2.adapter "main").store
    work.OnlyCommands ∧ World.Brittle "main" adapter.kind (world.hooks "main") ∧
      adapter.store.snapshot = none ∧ ended.1 = .error (.backend "commit failed") ∧
      (∀ reason, .answered .rollback (.error reason) ∉
        (world.hooks "main").history (work.run {}).runOn world) ∧
      left.tables = [("Item", [("1", row)])] ∧ left.snapshot = some [] ∧
      ¬(left.tables = adapter.store.tables ∧ left.snapshot = none) := by
  intro item row adapter world work ended left
  have commands : work.OnlyCommands := .issue _ fun _ => .done _
  have history : (world.hooks "main").history (work.run {}).runOn world =
      [.answered .begin (.ok ()), .worked (.ok (.object row)),
        .answered .commit (.error (.backend "commit failed"))] := rfl
  have tables : left.tables = [("Item", [("1", row)])] := rfl
  have snapshot : left.snapshot = some [] := rfl
  refine ⟨commands, world.brittle_hooks "main" rfl, rfl, rfl, ?_, tables, snapshot, ?_⟩
  · rw [history]
    simp
  · rintro ⟨_, closed⟩
    rw [snapshot] at closed
    cases closed

end RecordQuery
