import RecordQuery.Entity.Basic
import RecordQuery.Validation

/-!
# Collecting filters

The calls by which queries, updates and removals collect their filters, one
after the other. A call that cannot be carried out is remembered, and the first
such call is what checking reports.
-/

namespace RecordQuery

/-- Filters collected so far, and what was wrong with the first payload of field
values that could not be read as one. -/
structure FilterSet where
  filters : List Filter := []
  misfit : Option ConditionFault := none

namespace FilterSet

/-- Add a filter. -/
def push (set : FilterSet) (filter : Filter) : FilterSet :=
  { set with filters := set.filters ++ [filter] }

/-- The condition that a field has a value. -/
def equalTo (field : String × Value) : Filter :=
  .condition (.of (.parse field.1) .eq field.2)

/-- Remember what is wrong with a payload, unless one before was wrong. -/
def defer (set : FilterSet) (fault : ConditionFault) : FilterSet :=
  { set with misfit := set.misfit.or (some fault) }

/-- Each field of an object must have the given value. -/
def whereEq (set : FilterSet) (payload : Payload) : FilterSet :=
  match payload with
  | .ok (.object fields) => { set with filters := set.filters ++ fields.map equalTo }
  | .ok other => set.defer (.notFields other)
  | .error text => set.defer (.unencodable text)

/-- A comparison must hold. -/
def andWhere (set : FilterSet) (field : Path) (operator : Operator) (value : Value) : FilterSet :=
  set.push (.condition (.of field operator value))

/-- A comparison must hold in some place behind the path. -/
def whereNested (set : FilterSet) (path : Path) (operator : Operator) (value : Value) :
    FilterSet :=
  set.push (.condition ⟨path, operator, value, some .any⟩)

/-- A comparison must hold for every element of a list. -/
def whereAll (set : FilterSet) (list element : Path) (operator : Operator) (value : Value) :
    FilterSet :=
  set.push (.condition ⟨list.join element, operator, value, some .all⟩)

/-- The last filter or a comparison must hold. Without a last filter the
comparison stands alone. -/
def orWhere (set : FilterSet) (field : Path) (operator : Operator) (value : Value) : FilterSet :=
  let alternative : Filter := .condition (.of field operator value)
  match set.filters.getLast? with
  | some last => { set with filters := set.filters.dropLast ++ [.group .or [last, alternative]] }
  | none => set.push alternative

/-- One of several filters must hold. -/
def orGroup (set : FilterSet) (alternatives : List Filter) : FilterSet :=
  set.push (.group .or alternatives)

/-- A group must hold. -/
def whereGroup (set : FilterSet) (connective : Connective) (members : List Filter) : FilterSet :=
  set.push (.group connective members)

/-- The first problem: a payload that could not be read as field values, then the
problems of the filters. -/
def problem? (set : FilterSet) (rules : FieldRules) : Option Error :=
  match set.misfit with
  | some fault => some (.invalidCondition "*" .eq fault)
  | none => rules.filtersProblem? set.filters

end FilterSet

end RecordQuery
