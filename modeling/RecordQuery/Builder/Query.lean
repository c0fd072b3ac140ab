import RecordQuery.Builder.Filters

/-!
# Building queries

A query is put together call by call and compiled when it runs. Compiling checks
everything, in the order filters, page, order clauses, selected names; counting
compiles the filters alone.
-/

namespace RecordQuery

/-- A query in the making. -/
structure QueryBuilder where
  filters : FilterSet := {}
  relations : List String := []
  select : List String := []
  order : List OrderClause := []
  page : Option (Nat × Nat) := none
  limit : Option Nat := none
  skip : Option Nat := none

namespace QueryBuilder

/-- Collect a filter. -/
def filter (builder : QueryBuilder) (call : FilterSet → FilterSet) : QueryBuilder :=
  { builder with filters := call builder.filters }

/-- Name relations to include. -/
def relate (builder : QueryBuilder) (names : List String) : QueryBuilder :=
  { builder with relations := builder.relations ++ names }

/-- Name fields to select. -/
def selectFields (builder : QueryBuilder) (names : List String) : QueryBuilder :=
  { builder with select := builder.select ++ names }

/-- Sort by a path, where all earlier clauses leave rows tied. -/
def orderBy (builder : QueryBuilder) (field : Path) (direction : Direction) : QueryBuilder :=
  { builder with order := builder.order ++ [⟨field, direction⟩] }

/-- Ask for one page. Limit and skip do not count then. -/
def paginate (builder : QueryBuilder) (number size : Nat) : QueryBuilder :=
  { builder with page := some (number, size) }

/-- Return no more rows than that. -/
def limitTo (builder : QueryBuilder) (count : Nat) : QueryBuilder :=
  { builder with limit := some count }

/-- Return no rows before that many others. -/
def skipOver (builder : QueryBuilder) (count : Nat) : QueryBuilder :=
  { builder with skip := some count }

/-- The window: a page if one was asked for, otherwise a range if a limit or a
number of rows to skip was given. -/
def window (builder : QueryBuilder) : Except Error Window :=
  match builder.page, builder.limit, builder.skip with
  | some (number, size), _, _ => (Page.make number size).map .page
  | none, none, none => .ok .all
  | none, limit, skip => .ok (.range (skip.getD 0) limit)

/-- The finished query of an entity with the given declared fields. -/
def compile (builder : QueryBuilder) (rules : FieldRules) : Except Error QuerySpec := do
  rejectIf (builder.filters.problem? rules)
  let window ← builder.window
  let spec : QuerySpec :=
    { entity := rules.entity
      filters := builder.filters.filters
      relations := builder.relations
      select := builder.select
      order := builder.order
      window }
  rejectIf (spec.problem? rules.declared rules.settings)
  return spec

/-- The query for counting, with the filters alone. -/
def compileCount (builder : QueryBuilder) (rules : FieldRules) : Except Error QuerySpec := do
  rejectIf (builder.filters.problem? rules)
  return { entity := rules.entity, filters := builder.filters.filters }

end QueryBuilder

end RecordQuery
