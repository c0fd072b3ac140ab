import RecordQuery.Spec

/-!
# Checking specifications

The first problem of a specification, in the order in which problems are looked
for: each condition for its value and then for its field, then the order clauses,
then the selected names. An entity that declares no fields knows every field.
-/

namespace RecordQuery

/-- Why a condition's path or value does not fit its operator. -/
def Condition.fault? (condition : Condition) : Option ConditionFault :=
  if condition.field.isEmpty then some .emptyPath
  else
    match condition.operator, condition.value with
    | .isIn, .list _ | .notIn, .list _ => none
    | .isIn, _ | .notIn, _ => some .notAList
    | .between, .list [_, _] => none
    | .between, .list bounds => some (.boundCount bounds.length)
    | .between, _ => some .notBounds
    | .like, .text _ | .ilike, .text _ => none
    | .like, _ | .ilike, _ => some .notAPattern
    | _, _ => none

/-- The problem of a condition by itself, whatever its field is called. -/
def Condition.problem? (condition : Condition) : Option Error :=
  condition.fault?.map (.invalidCondition condition.field.display condition.operator)

/-- Which fields an entity has. -/
structure FieldRules where
  entity : String
  declared : List String
  settings : Settings

namespace FieldRules

/-- Whether a name is a field of the entity. -/
def knows (rules : FieldRules) (name : String) : Bool :=
  rules.declared.isEmpty || rules.declared.contains name || rules.settings.managed.contains name

/-- A path is unknown when its first segment is. -/
def pathProblem? (rules : FieldRules) (path : Path) : Option Error :=
  match path.root? with
  | some root =>
      if rules.knows root then none else some (.unknownField rules.entity path.display)
  | none => none

/-- The problem of a condition on the entity. -/
def conditionProblem? (rules : FieldRules) (condition : Condition) : Option Error :=
  condition.problem?.or (rules.pathProblem? condition.field)

/-- The first problem among the conditions of filters, depth first. -/
def filtersProblem? (rules : FieldRules) (filters : List Filter) : Option Error :=
  (Filter.conditionsOf filters).findSome? rules.conditionProblem?

/-- The first problem among order clauses. -/
def orderProblem? (rules : FieldRules) (clauses : List OrderClause) : Option Error :=
  clauses.findSome? fun clause => rules.pathProblem? clause.field

/-- The first problem among selected names. -/
def selectProblem? (rules : FieldRules) (names : List String) : Option Error :=
  names.findSome? fun name => rules.pathProblem? (.parse name)

end FieldRules

/-- The first problem of a query on an entity with the given declared fields. -/
def QuerySpec.problem? (spec : QuerySpec) (declared : List String) (settings : Settings) :
    Option Error :=
  let rules : FieldRules := ⟨spec.entity, declared, settings⟩
  (rules.filtersProblem? spec.filters).or <|
    (rules.orderProblem? spec.order).or (rules.selectProblem? spec.select)

/-- A filter's own problem, with no regard to the fields of an entity. -/
def Filter.problem? (filter : Filter) : Option Error :=
  filter.conditions.findSome? Condition.problem?

/-- A check that fails with the problem, if there is one. -/
def rejectIf : Option Error → Except Error Unit
  | some error => .error error
  | none => .ok ()

end RecordQuery
