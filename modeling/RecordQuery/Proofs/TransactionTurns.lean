import RecordQuery.Proofs.AllOrNothing
import RecordQuery.Proofs.Lookup

/-!
# When a transaction is open

Calls to begin, commit, roll back and clear take turns: the last one that succeeded
says whether a transaction is open. The calls of a memory adapter succeed and fail
accordingly in every state of every run, and what an open transaction goes back to are
the tables as they were when it began, whatever has been called since.
-/

namespace RecordQuery

/-- A call as it went: what was asked of which adapter, and the answer. -/
structure AdapterEvent where
  request : AdapterRequest
  before : Adapter
  answer : Except Error Unit

namespace AdapterRequest

/-- Whether a call is to begin a transaction. -/
def isBegin : AdapterRequest → Bool
  | begin => true
  | _ => false

/-- Whether a call can open or close a transaction. Calls on rows cannot. -/
def isTurn : AdapterRequest → Bool
  | data _ => false
  | _ => true

/-- A call on an adapter, as it goes. -/
def event (request : AdapterRequest) (adapter : Adapter) (supply : Supply) : AdapterEvent :=
  ⟨request, adapter, (request.perform adapter supply).1⟩

/-- Calls made one after the other, as they go. -/
def history : List AdapterRequest → Adapter → Supply → List AdapterEvent
  | [], _, _ => []
  | request :: rest, adapter, supply =>
      let (_, after, left) := request.perform adapter supply
      request.event adapter supply :: history rest after left

end AdapterRequest

namespace AdapterEvent

/-- A successful call that opens or closes a transaction. -/
def turns (event : AdapterEvent) : Bool := event.request.isTurn && event.answer.isOk

/-- The call that began the open transaction: the last successful one that opened or
closed a transaction, if it was to begin. Without it no transaction is open. -/
def opening? (events : List AdapterEvent) : Option AdapterEvent :=
  (events.filter turns).getLast?.filter fun event => event.request.isBegin

theorem opening?_concat (events : List AdapterEvent) (event : AdapterEvent) :
    opening? (events ++ [event]) =
      if event.turns then if event.request.isBegin then some event else none
      else opening? events := by
  rw [opening?, List.filter_append]
  by_cases turned : event.turns
  · rw [List.filter_cons_of_pos turned, List.filter_nil, List.getLast?_concat, if_pos turned]
    rfl
  · rw [List.filter_cons_of_neg turned, List.filter_nil, List.append_nil, if_neg turned, opening?]

/-- What began the open transaction was a successful call to begin. -/
theorem begin_of_opening?_eq {events : List AdapterEvent} {begun : AdapterEvent}
    (opened : opening? events = some begun) : begun.request = .begin ∧ begun.answer = .ok () := by
  obtain ⟨last, begins⟩ := Option.filter_eq_some_iff.mp opened
  obtain ⟨-, turned⟩ := List.mem_filter.mp (List.mem_of_getLast? last)
  obtain ⟨request, before, answer⟩ := begun
  have succeeded : answer.isOk := (Bool.and_eq_true_iff.mp turned).2
  constructor
  · cases request <;> first | rfl | cases begins
  · cases answer with
    | ok => rfl
    | error => cases succeeded

end AdapterEvent

open AdapterEvent

/-! ## The calls of a memory adapter -/

section

variable {adapter : Adapter} (memory : adapter.kind = .memory)

include memory

theorem Adapter.begin_ok_iff : adapter.begin.1 = .ok () ↔ adapter.store.snapshot = none := by
  cases state : adapter.store.snapshot with
  | none => simp [begin_of_closed memory state]
  | some saved => simp [begin_of_open memory state]

theorem Adapter.commit_ok_iff : adapter.commit.1 = .ok () ↔ adapter.store.snapshot ≠ none := by
  cases state : adapter.store.snapshot with
  | none => simp [commit_of_closed memory state]
  | some saved => simp [commit_of_open memory state]

theorem Adapter.rollback_ok_iff :
    adapter.rollback.1 = .ok () ↔ adapter.store.snapshot ≠ none := by
  cases state : adapter.store.snapshot with
  | none => simp [rollback_of_closed memory state]
  | some saved => simp [rollback_of_open memory state]

theorem Adapter.snapshot_begin :
    adapter.begin.2.store.snapshot =
      if adapter.begin.1.isOk then some adapter.store.tables else adapter.store.snapshot := by
  cases state : adapter.store.snapshot with
  | none =>
      rw [begin_of_closed memory state]
      rfl
  | some saved =>
      rw [begin_of_open memory state]
      exact state

theorem Adapter.snapshot_commit :
    adapter.commit.2.store.snapshot =
      if adapter.commit.1.isOk then none else adapter.store.snapshot := by
  cases state : adapter.store.snapshot with
  | none =>
      rw [commit_of_closed memory state]
      exact state
  | some saved =>
      rw [commit_of_open memory state]
      rfl

theorem Adapter.snapshot_rollback :
    adapter.rollback.2.store.snapshot =
      if adapter.rollback.1.isOk then none else adapter.store.snapshot := by
  cases state : adapter.store.snapshot with
  | none =>
      rw [rollback_of_closed memory state]
      exact state
  | some saved =>
      rw [rollback_of_open memory state]
      rfl

/-- A call to begin or to close that fails leaves the adapter as it was. -/
theorem Adapter.eq_of_failed {call : Adapter → Except Error Unit × Adapter}
    (among : call ∈ [Adapter.begin, Adapter.commit, Adapter.rollback]) {error : Error}
    (failed : (call adapter).1 = .error error) : (call adapter).2 = adapter := by
  simp only [List.mem_cons, List.not_mem_nil, or_false] at among
  cases state : adapter.store.snapshot with
  | none =>
      obtain rfl | rfl | rfl := among
      · simp [begin_of_closed memory state] at failed
      · rw [commit_of_closed memory state]
      · rw [rollback_of_closed memory state]
  | some saved =>
      obtain rfl | rfl | rfl := among
      · rw [begin_of_open memory state]
      · simp [commit_of_open memory state] at failed
      · simp [rollback_of_open memory state] at failed

theorem Adapter.tables_begin : adapter.begin.2.store.tables = adapter.store.tables := by
  cases state : adapter.store.snapshot with
  | none =>
      rw [begin_of_closed memory state]
      rfl
  | some saved => rw [begin_of_open memory state]

theorem Adapter.tables_commit : adapter.commit.2.store.tables = adapter.store.tables := by
  cases state : adapter.store.snapshot with
  | none => rw [commit_of_closed memory state]
  | some saved =>
      rw [commit_of_open memory state]
      rfl

end

/-- A successful call to begin keeps the tables aside, and one that closes or clears
gives up what was kept. All other calls leave that as it was. -/
theorem AdapterRequest.snapshot_perform {adapter : Adapter} (memory : adapter.kind = .memory)
    (request : AdapterRequest) (supply : Supply) :
    (request.perform adapter supply).2.1.store.snapshot =
      if (request.event adapter supply).turns then
        if request.isBegin then some adapter.store.tables else none
      else adapter.store.snapshot := by
  cases request with
  | data call =>
      obtain ⟨tables, changed⟩ := call.perform_frame adapter supply
      show (call.perform adapter supply).2.1.store.snapshot = adapter.store.snapshot
      rw [changed]
      rfl
  | begin => exact Adapter.snapshot_begin memory
  | commit => exact Adapter.snapshot_commit memory
  | rollback => exact Adapter.snapshot_rollback memory
  | clear => rfl

/-! ## Runs -/

/-- After the given events a memory adapter keeps the tables aside with which the open
transaction began, and none if no transaction is open. -/
structure Adapter.Follows (adapter : Adapter) (events : List AdapterEvent) : Prop where
  memory : adapter.kind = .memory
  snapshot : adapter.store.snapshot = (opening? events).map fun event => event.before.store.tables

namespace Adapter.Follows

variable {adapter : Adapter} {events : List AdapterEvent}

theorem perform (follows : adapter.Follows events) (request : AdapterRequest) (supply : Supply) :
    (request.perform adapter supply).2.1.Follows (events ++ [request.event adapter supply]) where
  memory := request.perform_kind adapter supply follows.memory
  snapshot := by
    have begun : (request.event adapter supply).request.isBegin = request.isBegin := rfl
    rw [request.snapshot_perform follows.memory, opening?_concat, follows.snapshot, begun]
    split
    · split <;> rfl
    · rfl

/-- What the calls of a run do, whether they succeed or fail. -/
theorem runAll (follows : adapter.Follows events) (requests : List AdapterRequest)
    (supply : Supply) :
    (AdapterRequest.runAll requests adapter supply).1.Follows
      (events ++ AdapterRequest.history requests adapter supply) := by
  induction requests generalizing adapter events supply with
  | nil =>
      rw [AdapterRequest.history, List.append_nil]
      exact follows
  | cons request rest ih =>
      have followed := ih (follows.perform request supply) (request.perform adapter supply).2.2
      rw [List.append_assoc] at followed
      exact followed

/-- The snapshot says whether a transaction is open. -/
theorem snapshot_eq_none_iff (follows : adapter.Follows events) :
    adapter.store.snapshot = none ↔ opening? events = none := by
  rw [follows.snapshot, Option.map_eq_none_iff]

/-- Rolling back undoes what was done since the transaction began. -/
theorem tables_rollback (follows : adapter.Follows events) {begun : AdapterEvent}
    (opened : opening? events = some begun) :
    adapter.rollback.2.store.tables = begun.before.store.tables := by
  have saved : adapter.store.snapshot = some begun.before.store.tables := by
    rw [follows.snapshot, opened, Option.map_some]
  rw [Adapter.rollback_of_open follows.memory saved]
  rfl

end Adapter.Follows

/-- In every state of every run, begin succeeds exactly if no transaction is open, and
commit and rollback exactly if one is, where a transaction is open if the last
successful call that opened or closed one was to begin. A failing call changes
nothing. Rolling back returns to the tables as they were when the transaction began,
and begin and commit leave the tables as they are. -/
theorem transactions_take_turns (settings : Settings) (tables : Keyed Table) (supply : Supply)
    (requests : List AdapterRequest) :
    let start : Adapter := { store := { settings, tables } }
    let opening := opening? (AdapterRequest.history requests start supply)
    let adapter := (AdapterRequest.runAll requests start supply).1
    (adapter.begin.1 = .ok () ↔ opening = none) ∧
    (adapter.commit.1 = .ok () ↔ opening ≠ none) ∧
    (adapter.rollback.1 = .ok () ↔ opening ≠ none) ∧
    (∀ call ∈ [Adapter.begin, Adapter.commit, Adapter.rollback], ∀ error,
      (call adapter).1 = .error error → (call adapter).2 = adapter) ∧
    (∀ begun, opening = some begun →
      begun.request = .begin ∧ begun.answer = .ok () ∧
        adapter.rollback.2.store.tables = begun.before.store.tables) ∧
    adapter.begin.2.store.tables = adapter.store.tables ∧
    adapter.commit.2.store.tables = adapter.store.tables := by
  intro start opening adapter
  have empty : start.Follows [] := ⟨rfl, rfl⟩
  have follows : adapter.Follows (AdapterRequest.history requests start supply) :=
    empty.runAll requests supply
  have isOpen := follows.snapshot_eq_none_iff
  refine ⟨(Adapter.begin_ok_iff follows.memory).trans isOpen,
    (Adapter.commit_ok_iff follows.memory).trans (not_congr isOpen),
    (Adapter.rollback_ok_iff follows.memory).trans (not_congr isOpen),
    fun call among error failed => Adapter.eq_of_failed follows.memory among failed, ?_,
    Adapter.tables_begin follows.memory, Adapter.tables_commit follows.memory⟩
  intro begun opened
  obtain ⟨request, answer⟩ := begin_of_opening?_eq opened
  exact ⟨request, answer, follows.tables_rollback opened⟩

/-- A second call to begin is refused and does not replace what is kept. -/
theorem transactions_take_turns_nested :
    let supply : Supply := ⟨fun _ => "u", fun _ => "t", 0, 0⟩
    let create (id : String) : AdapterRequest := .data (.create ⟨"Item", [("id", .text id)]⟩)
    let requests := [create "a", .begin, .data (.delete ⟨"Item", []⟩), .begin, create "b"]
    let after (count : Nat) : Adapter :=
      (AdapterRequest.runAll (requests.take count) { store := { settings := {} } } supply).1
    ((after 5).store.table "Item").keys = ["b"] ∧ ((after 1).store.table "Item").keys = ["a"] ∧
      (after 5).begin.1 ≠ .ok () ∧ (after 5).rollback.1 = .ok () ∧
      (after 5).rollback.2.store.tables = (after 1).store.tables := by
  intro supply create requests after
  obtain ⟨begins, -, rollsBack, -, goesBack, -⟩ :=
    transactions_take_turns {} [] supply requests
  have opened : opening? (AdapterRequest.history requests { store := { settings := {} } } supply) =
      some ⟨.begin, after 1, .ok ()⟩ := rfl
  have isOpen : opening? (AdapterRequest.history requests { store := { settings := {} } } supply) ≠
      none := by simp [opened]
  exact ⟨by decide +kernel, by decide +kernel, fun succeeded => isOpen (begins.mp succeeded),
    rollsBack.mpr isOpen, (goesBack _ opened).2.2⟩

end RecordQuery
