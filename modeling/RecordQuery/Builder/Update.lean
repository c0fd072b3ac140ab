import RecordQuery.Builder.Filters
import RecordQuery.Entity.Basic

/-!
# Building updates and removals

An update collects filters and fields to write; a removal collects filters only.
A payload that cannot be written is remembered, and the first one is reported
before anything else.
-/

namespace RecordQuery

/-- An update in the making. -/
structure UpdateBuilder where
  filters : FilterSet := {}
  patch : Record := []
  error : Option Error := none

namespace UpdateBuilder

/-- Collect a filter. -/
def filter (builder : UpdateBuilder) (call : FilterSet → FilterSet) : UpdateBuilder :=
  { builder with filters := call builder.filters }

/-- Remember an error, unless there was one before. -/
def fail (builder : UpdateBuilder) (error : Error) : UpdateBuilder :=
  { builder with error := builder.error.or (some error) }

/-- Write the fields of an object. -/
def set (builder : UpdateBuilder) (entity : String) (payload : Payload) : UpdateBuilder :=
  match payloadRecord entity payload with
  | .ok fields => { builder with patch := builder.patch.overlay fields }
  | .error error => builder.fail error

/-- Write one field. -/
def setField (builder : UpdateBuilder) (key : String) (payload : Payload) : UpdateBuilder :=
  match payload with
  | .ok value => { builder with patch := builder.patch.put key value }
  | .error _ => builder.fail .serialization

@[simp] theorem filters_set (builder : UpdateBuilder) (entity : String) (payload : Payload) :
    (builder.set entity payload).filters = builder.filters := by
  rw [set]
  split <;> rfl

@[simp] theorem filters_setField (builder : UpdateBuilder) (key : String) (payload : Payload) :
    (builder.setField key payload).filters = builder.filters := by
  cases payload <;> rfl

/-- The finished update, stamped with the time of modification. -/
def compile (builder : UpdateBuilder) (rules : FieldRules) (now : String) :
    Except Error UpdateSpec := do
  rejectIf builder.error
  rejectIf (builder.filters.problem? rules)
  return {
    entity := rules.entity
    filters := builder.filters.filters
    patch := builder.patch.put rules.settings.updatedAtField (.text now) }

end UpdateBuilder

/-- The finished removal of the rows that satisfy collected filters. -/
def FilterSet.compileDelete (set : FilterSet) (rules : FieldRules) : Except Error DeleteSpec := do
  rejectIf (set.problem? rules)
  return { entity := rules.entity, filters := set.filters }

end RecordQuery
