import RecordQuery.Store
import RecordQuery.Transaction

/-!
# Adapters

An adapter offers commands on rows and says what it can do about transactions.
All adapters here keep their rows in a memory store of their own; they differ in
the transactions they offer and in the calls that they refuse.
-/

namespace RecordQuery

/-- The calls that an adapter can be told to refuse. -/
inductive AdapterOperation where
  | query
  | count
  | create
  | update
  | delete
  | begin
  | commit
  | rollback
  deriving DecidableEq

namespace AdapterOperation

/-- The name of a call in messages. -/
def name : AdapterOperation → String
  | query => "query"
  | count => "count"
  | create => "create"
  | update => "update"
  | delete => "delete"
  | begin => "begin"
  | commit => "commit"
  | rollback => "rollback"

/-- The error of a refused call. -/
def failure (operation : AdapterOperation) : Error := .backend (operation.name ++ " failed")

end AdapterOperation

/-- The kinds of adapter: the memory store itself, a store without transactions,
one with native transactions (which a lazy adapter claims but never runs), and a
store some of whose calls are refused. -/
inductive AdapterKind where
  | memory
  | bare
  | native (isLazy : Bool)
  | faulty (refused : List AdapterOperation)
  deriving DecidableEq

namespace AdapterKind

/-- The name under which an adapter appears in messages. -/
def name : AdapterKind → String
  | memory => "memory"
  | bare => "bare"
  | native _ => "native"
  | faulty _ => "faulty"

/-- What an adapter of this kind can do. -/
def capabilities : AdapterKind → Capabilities
  | memory | faulty _ => { manual := true, serialized := true }
  | bare => {}
  | native _ => { native := true }

/-- Whether a call is refused. -/
def refuses : AdapterKind → AdapterOperation → Bool
  | faulty refused, operation => refused.contains operation
  | _, _ => false

/-- Whether commits and rollbacks are counted. -/
def counts : AdapterKind → Bool
  | faulty _ | native _ => true
  | _ => false

end AdapterKind

/-- An adapter with its rows, and the commits and rollbacks asked of it. -/
structure Adapter where
  kind : AdapterKind := .memory
  store : Store := {}
  commits : Nat := 0
  rollbacks : Nat := 0

/-- A call on an adapter: the answer, and adapter and supply after it. -/
abbrev AdapterCall (α : Type) := Adapter → Supply → Except Error α × Adapter × Supply

namespace Adapter

variable {α : Type}

/-- A call that only reads the store. -/
def reading (operation : AdapterOperation) (read : Store → α) : AdapterCall α :=
  fun adapter supply =>
    (if adapter.kind.refuses operation then .error operation.failure else .ok (read adapter.store),
      adapter, supply)

/-- The rows that a query asks for. -/
def query (spec : QuerySpec) : AdapterCall (QueryResult Record) :=
  reading .query fun store => store.query spec

/-- The first row that a query asks for. -/
def queryFirst (spec : QuerySpec) : AdapterCall (Option Record) :=
  reading .query fun store => (store.query spec.firstRow).data.head?

/-- The number of rows that satisfy the filters of a query. -/
def count (spec : QuerySpec) : AdapterCall Nat :=
  reading .count fun store => store.count spec

/-- Store a row. A unique text is drawn if the row has no id, a time always. -/
def create (spec : CreateSpec) : AdapterCall Record := fun adapter supply =>
  if adapter.kind.refuses .create then
    (.error AdapterOperation.create.failure, adapter, supply)
  else
    let (answer, store) := adapter.store.create spec supply.id supply.time
    let drawn := if adapter.store.needsId spec then supply.afterId else supply
    (answer, { adapter with store }, drawn.afterTime)

/-- Patch rows, and say how many. -/
def update (spec : UpdateSpec) : AdapterCall Nat := fun adapter supply =>
  if adapter.kind.refuses .update then
    (.error AdapterOperation.update.failure, adapter, supply)
  else
    let (updated, store) := adapter.store.update spec supply.time
    (.ok updated, { adapter with store }, supply.afterTime)

/-- Remove rows, and say how many. -/
def delete (spec : DeleteSpec) : AdapterCall Nat := fun adapter supply =>
  if adapter.kind.refuses .delete then
    (.error AdapterOperation.delete.failure, adapter, supply)
  else
    let (removed, store) := adapter.store.delete spec
    (.ok removed, { adapter with store }, supply)

/-- Apply a transaction step of the store. -/
def onStore (step : Store → Except Error Unit × Store) (adapter : Adapter) :
    Except Error Unit × Adapter :=
  let (answer, store) := step adapter.store
  (answer, { adapter with store })

/-- Whether the adapter has calls to begin, commit and roll back. -/
def hasManual (adapter : Adapter) : Bool := adapter.kind.capabilities.manual

/-- The error of a call that the adapter does not have. -/
def lacks (adapter : Adapter) (call : TransactionCall) : Error :=
  .unsupported adapter.kind.name call

/-- Open a transaction. -/
def begin (adapter : Adapter) : Except Error Unit × Adapter :=
  if !adapter.hasManual then (.error (adapter.lacks .begin), adapter)
  else if adapter.kind.refuses .begin then (.error AdapterOperation.begin.failure, adapter)
  else adapter.onStore Store.begin

/-- The adapter after one more commit, where commits are counted. -/
def countCommit (adapter : Adapter) : Adapter :=
  if adapter.kind.counts then { adapter with commits := adapter.commits + 1 } else adapter

/-- The adapter after one more rollback, where rollbacks are counted. -/
def countRollback (adapter : Adapter) : Adapter :=
  if adapter.kind.counts then { adapter with rollbacks := adapter.rollbacks + 1 } else adapter

/-- Close the open transaction and keep its effects. -/
def commit (adapter : Adapter) : Except Error Unit × Adapter :=
  if !adapter.hasManual then (.error (adapter.lacks .commit), adapter)
  else if adapter.kind.refuses .commit then (.error AdapterOperation.commit.failure, adapter)
  else adapter.countCommit.onStore Store.commit

/-- Close the open transaction and undo its effects. -/
def rollback (adapter : Adapter) : Except Error Unit × Adapter :=
  if !adapter.hasManual then (.error (adapter.lacks .rollback), adapter)
  else if adapter.kind.refuses .rollback then (.error AdapterOperation.rollback.failure, adapter)
  else adapter.countRollback.onStore Store.rollback

/-- The part of a native transaction before its work: an answer, or leave to run
the work. A lazy adapter answers success at once. -/
def enter (adapter : Adapter) : Option (Except Error Unit) × Adapter :=
  match adapter.kind with
  | .native true => (some (.ok ()), adapter)
  | .native false =>
      match adapter.onStore Store.begin with
      | (.ok (), begun) => (none, begun)
      | (.error error, after) => (some (.error error), after)
  | _ => (some (.error (adapter.lacks .transactional)), adapter)

/-- The part of a native transaction after its work: commit what succeeded, roll
back what failed and pass the failure on. -/
def leave (outcome : Except Error Unit) (adapter : Adapter) : Except Error Unit × Adapter :=
  match outcome with
  | .ok () => adapter.countCommit.onStore Store.commit
  | .error error => (.error error, (adapter.countRollback.onStore Store.rollback).2)

end Adapter

end RecordQuery
