import RecordQuery.Operator
import RecordQuery.Path
import RecordQuery.Text.LowerCase
import RecordQuery.Text.Substring

/-!
# Conditions and filters

A condition compares the places that a path reaches with a value. Conditions
are combined by AND and OR groups of any depth into filters, and a list of
filters is an AND of its members. Evaluation never fails: a value whose shape
does not fit its operator just matches nothing.
-/

namespace RecordQuery

/-- How the places behind a path through lists are combined: one must match, or
every one. -/
inductive Quantifier where
  | any
  | all
  deriving DecidableEq

/-- One comparison. A condition without a quantifier asks for any place. -/
structure Condition where
  field : Path
  operator : Operator
  value : Value
  quantifier : Option Quantifier
  deriving DecidableEq

namespace Condition

/-- A condition without a quantifier. -/
def of (field : Path) (operator : Operator) (value : Value) : Condition :=
  ⟨field, operator, value, none⟩

/-- Whether the listed values hold one equal to `field`. Nothing is listed by a
value that is not a list. -/
def listed? (field : Value) (value : Value) : Option Bool :=
  value.asList?.map fun items => items.any fun candidate => field.equal candidate

/-- Whether a text holds a pattern, both first passed through `fold`. -/
def holdsPattern (fold : List Char → List Char) (field pattern : Value) : Bool :=
  match field.asText?, pattern.asText? with
  | some text, some wanted => Text.occursIn (fold wanted.toList) (fold text.toList)
  | _, _ => false

/-- Whether a value lies within two inclusive bounds. -/
def isWithin (field bounds : Value) : Bool :=
  match bounds with
  | .list [low, high] =>
      (field.compareCoerced? low).any (· != .lt) && (field.compareCoerced? high).any (· != .gt)
  | _ => false

/-- Whether a value satisfies an operator and its comparison value. -/
def matchesValue (operator : Operator) (value field : Value) : Bool :=
  match operator with
  | .eq => field.equal value
  | .neq => !field.equal value
  | .gt | .gte | .lt | .lte => (field.compareCoerced? value).any operator.holdsFor
  | .isIn => (listed? field value).any id
  | .notIn => (listed? field value).any (!·)
  | .like => holdsPattern id field value
  | .ilike => holdsPattern Text.toLower field value
  | .between => isWithin field value
  | .isNull => Leaf.isNullish (some field)
  | .isNotNull => !Leaf.isNullish (some field)

/-- Whether one place satisfies the condition. A missing place satisfies nothing
but the question for null. -/
def matchesLeaf (condition : Condition) (leaf : Leaf) : Bool :=
  match leaf with
  | none => condition.operator == .isNull
  | some field => matchesValue condition.operator condition.value field

/-- Whether a row satisfies the condition. -/
def holds (condition : Condition) (row : Record) : Bool :=
  let leaves := (condition.field.resolve row).leaves
  match condition.quantifier.getD .any with
  | .any => leaves.any condition.matchesLeaf
  | .all => leaves.all condition.matchesLeaf

end Condition

/-- How a group combines its members. -/
inductive Connective where
  | and
  | or
  deriving DecidableEq

/-- A condition, or a group of filters. -/
inductive Filter where
  | condition (comparison : Condition)
  | group (connective : Connective) (members : List Filter)

namespace Filter

mutual

/-- Whether a row satisfies a filter. An empty AND holds, an empty OR does not. -/
def holds (row : Record) : Filter → Bool
  | .condition comparison => comparison.holds row
  | .group .and members => allHold row members
  | .group .or members => anyHolds row members

/-- Whether every filter holds. -/
def allHold (row : Record) : List Filter → Bool
  | [] => true
  | filter :: rest => holds row filter && allHold row rest

/-- Whether some filter holds. -/
def anyHolds (row : Record) : List Filter → Bool
  | [] => false
  | filter :: rest => holds row filter || anyHolds row rest

end

mutual

/-- The conditions of a filter, depth first and from left to right. -/
def conditions : Filter → List Condition
  | .condition comparison => [comparison]
  | .group _ members => conditionsOf members

/-- The conditions of several filters, one filter after the other. -/
def conditionsOf : List Filter → List Condition
  | [] => []
  | filter :: rest => conditions filter ++ conditionsOf rest

end

theorem conditionsOf_eq_flatMap (filters : List Filter) :
    conditionsOf filters = filters.flatMap conditions := by
  induction filters with
  | nil => rfl
  | cons filter rest ih => rw [conditionsOf, ih, List.flatMap_cons]

end Filter

end RecordQuery
