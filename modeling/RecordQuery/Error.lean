import RecordQuery.Json.Writer
import RecordQuery.Operator

/-!
# Errors

What can go wrong, by cause, and the wording of each cause.
-/

namespace RecordQuery

/-- Why a condition cannot be used. -/
inductive ConditionFault where
  | emptyPath
  | notAList
  | boundCount (count : Nat)
  | notBounds
  | notAPattern
  | notFields (given : Value)
  | unencodable (text : String)
  deriving DecidableEq

namespace ConditionFault

/-- The wording of a fault. -/
def reason : ConditionFault → String
  | emptyPath => "field path is empty"
  | notAList => "expected a list of values"
  | boundCount count => "expected exactly 2 bounds, got " ++ toString count
  | notBounds => "expected [min, max]"
  | notAPattern => "expected a string pattern"
  | notFields given => "expected an object of field values, got " ++ given.compact
  | unencodable text => text

end ConditionFault

/-- The calls of an adapter that concern transactions. -/
inductive TransactionCall where
  | begin
  | commit
  | rollback
  | transactional
  deriving DecidableEq

namespace TransactionCall

/-- The name of a call in messages. -/
def name : TransactionCall → String
  | begin => "begin_transaction"
  | commit => "commit"
  | rollback => "rollback"
  | transactional => "transactional"

end TransactionCall

/-- Why a transaction could not be opened or closed. -/
inductive TransactionFault where
  | alreadyOpen
  | nothingToCommit
  | nothingToRollBack
  | workNotRun (adapter : String)
  deriving DecidableEq

namespace TransactionFault

/-- The wording of a fault. -/
def reason : TransactionFault → String
  | alreadyOpen => "a transaction is already open on the memory adapter"
  | nothingToCommit => "commit without an open transaction"
  | nothingToRollBack => "rollback without an open transaction"
  | workNotRun adapter => "adapter '" ++ adapter ++ "' committed without running the work"

end TransactionFault

/-- A failed command. -/
inductive Error where
  | notFound (entity id : String)
  | conflict (entity id : String)
  | invalidCondition (field : String) (operator : Operator) (fault : ConditionFault)
  | unknownField (entity field : String)
  | emptyPages
  | notAnObject (entity : String)
  | unsupported (adapter : String) (call : TransactionCall)
  | transaction (fault : TransactionFault)
  | backend (text : String)
  | serialization
  | settings
  deriving DecidableEq

namespace Error

/-- The wording of an error. -/
def message : Error → String
  | notFound entity id => entity ++ " with id '" ++ id ++ "' not found"
  | conflict entity id => entity ++ " with id '" ++ id ++ "' already exists"
  | invalidCondition field operator fault =>
      "invalid condition on '" ++ field ++ "' (" ++ operator.name ++ "): " ++ fault.reason
  | unknownField entity field => "unknown field '" ++ field ++ "' on " ++ entity
  | emptyPages => "invalid pagination: page size must be greater than 0"
  | notAnObject entity => entity ++ " payload must serialize to an object"
  | unsupported adapter call =>
      "adapter '" ++ adapter ++ "' does not support " ++ call.name
  | transaction fault => "transaction error: " ++ fault.reason
  | backend text => text
  | serialization => "serialization failed"
  | settings => "invalid configuration"

end Error

end RecordQuery
