/-!
# Comparison operators

The closed set of operators that a condition may use, with their wire names and
the shape of value each one takes.
-/

namespace RecordQuery

/-- A comparison operator. -/
inductive Operator where
  | eq
  | neq
  | gt
  | gte
  | lt
  | lte
  | isIn
  | notIn
  | like
  | ilike
  | between
  | isNull
  | isNotNull
  deriving DecidableEq

namespace Operator

/-- All operators in their usual order. -/
def all : List Operator :=
  [eq, neq, gt, gte, lt, lte, isIn, notIn, like, ilike, between, isNull, isNotNull]

/-- The name of an operator on the wire. -/
def name : Operator → String
  | eq => "eq"
  | neq => "neq"
  | gt => "gt"
  | gte => "gte"
  | lt => "lt"
  | lte => "lte"
  | isIn => "in"
  | notIn => "nin"
  | like => "like"
  | ilike => "ilike"
  | between => "between"
  | isNull => "isNull"
  | isNotNull => "isNotNull"

/-- The operator with a given name. -/
def ofName? (text : String) : Option Operator :=
  all.find? fun operator => operator.name == text

/-- Operators that ask how field and value are ordered. -/
def comparesOrder : Operator → Bool
  | gt | gte | lt | lte => true
  | _ => false

/-- Operators that take a list. -/
def takesList : Operator → Bool
  | isIn | notIn | between => true
  | _ => false

/-- Operators that take a text pattern. -/
def takesPattern : Operator → Bool
  | like | ilike => true
  | _ => false

/-- Operators that ignore their value. -/
def ignoresValue : Operator → Bool
  | isNull | isNotNull => true
  | _ => false

/-- Whether an ordering of field against value satisfies an ordering operator.
Other operators are never satisfied by an ordering. -/
def holdsFor (operator : Operator) (ordering : Ordering) : Bool :=
  match operator with
  | gt => ordering == .gt
  | gte => ordering != .lt
  | lt => ordering == .lt
  | lte => ordering != .gt
  | _ => false

/-- Names are read back. -/
@[simp] theorem ofName?_name (operator : Operator) : ofName? operator.name = some operator := by
  cases operator <;> decide

end Operator

/-- The answer to a name that no operator has. -/
structure UnknownOperator where
  name : String
  deriving DecidableEq

namespace UnknownOperator

/-- The wording of the answer. -/
def message (error : UnknownOperator) : String :=
  "unknown compare operator: '" ++ error.name ++ "'"

end UnknownOperator

/-- The operator with a given name, or the answer that there is none. -/
def Operator.parse (text : String) : Except UnknownOperator Operator :=
  match Operator.ofName? text with
  | some operator => .ok operator
  | none => .error ⟨text⟩

end RecordQuery
