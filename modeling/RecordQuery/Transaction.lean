import RecordQuery.Error

/-!
# Transactions over any adapter

How work is wrapped in a transaction, given what the adapter offers: a call that
runs the work itself, calls to begin, commit and roll back around it, or nothing
at all. The adapter is a parameter, described by its calls on some state, so the
rules below speak of every adapter.
-/

namespace RecordQuery

/-- What an adapter says about itself. -/
structure Capabilities where
  native : Bool := false
  manual : Bool := false
  serialized : Bool := false
  deriving DecidableEq

/-- The calls of an adapter that transactions use, on a state `σ`. A native
transaction is split at the point where it runs the work: `enter` comes before
and either lets the work run or answers without it, and `leave` turns the work's
outcome into the answer. The work therefore runs at most once, and the adapter
sees whether it failed but not the value that it returned. -/
structure TransactionHooks (σ : Type) where
  name : String
  capabilities : Capabilities
  begin : σ → Except Error Unit × σ
  commit : σ → Except Error Unit × σ
  rollback : σ → Except Error Unit × σ
  enter : σ → Option (Except Error Unit) × σ
  leave : Except Error Unit → σ → Except Error Unit × σ

namespace TransactionHooks

variable {σ α : Type}

/-- Whether an outcome is a success, its value left out. -/
def withoutValue (outcome : Except Error α) : Except Error Unit := outcome.map fun _ => ()

/-- The adapter's native call with some work: its answer, and the outcome of the
work if it ran. -/
def transactional (hooks : TransactionHooks σ) (work : σ → Except Error α × σ) (state : σ) :
    (Except Error Unit × Option (Except Error α)) × σ :=
  match hooks.enter state with
  | (some answer, entered) => ((answer, none), entered)
  | (none, entered) =>
      let (outcome, worked) := work entered
      let (answer, left) := hooks.leave (withoutValue outcome) worked
      ((answer, some outcome), left)

/-- Run work in the adapter's native transaction. An adapter that reports success
although the work did not succeed is not believed. -/
def runNative (hooks : TransactionHooks σ) (work : σ → Except Error α × σ) (state : σ) :
    Except Error α × σ :=
  match hooks.transactional work state with
  | ((.error error, _), after) => (.error error, after)
  | ((.ok (), some (.ok value)), after) => (.ok value, after)
  | ((.ok (), _), after) => (.error (.transaction (.workNotRun hooks.name)), after)

/-- Run work between begin and commit. Work that fails is rolled back, and its
own error is the answer, whatever rolling back says. -/
def runManual (hooks : TransactionHooks σ) (work : σ → Except Error α × σ) (state : σ) :
    Except Error α × σ :=
  match hooks.begin state with
  | (.error error, after) => (.error error, after)
  | (.ok (), begun) =>
      match work begun with
      | (.ok value, worked) =>
          let (answer, after) := hooks.commit worked
          (answer.map fun _ => value, after)
      | (.error error, worked) => (.error error, (hooks.rollback worked).2)

/-- Run work in a transaction: a native one if the adapter has them, otherwise a
manual one, and without any isolation if it has neither. -/
def run (hooks : TransactionHooks σ) (work : σ → Except Error α × σ) (state : σ) :
    Except Error α × σ :=
  if hooks.capabilities.native then hooks.runNative work state
  else if hooks.capabilities.manual then hooks.runManual work state
  else work state

/-- The same calls on a state that holds the adapter's state as a part. -/
def within {τ : Type} (hooks : TransactionHooks σ) (part : τ → σ) (replace : τ → σ → τ) :
    TransactionHooks τ :=
  let lift {β : Type} (call : σ → β × σ) (whole : τ) : β × τ :=
    let (answer, after) := call (part whole)
    (answer, replace whole after)
  { name := hooks.name
    capabilities := hooks.capabilities
    begin := lift hooks.begin
    commit := lift hooks.commit
    rollback := lift hooks.rollback
    enter := lift hooks.enter
    leave := fun outcome => lift (hooks.leave outcome) }

end TransactionHooks

end RecordQuery
