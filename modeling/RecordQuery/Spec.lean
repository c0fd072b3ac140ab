import RecordQuery.Condition
import RecordQuery.Settings.Basic
import RecordQuery.Sorting
import RecordQuery.Window

/-!
# Specifications of commands

The complete description of a query, a creation, an update or a deletion, as an
adapter receives it.
-/

namespace RecordQuery

/-- Everything a query asks for. Relations to include are carried along for
adapters that know them. -/
structure QuerySpec where
  entity : String
  filters : List Filter := []
  relations : List String := []
  select : List String := []
  order : List OrderClause := []
  window : Window := .all

namespace QuerySpec

/-- The same query cut to its first row. -/
def firstRow (spec : QuerySpec) : QuerySpec :=
  { spec with window := spec.window.firstRow }

/-- The query that finds the same rows, for counting them. -/
def countOnly (spec : QuerySpec) : QuerySpec :=
  { entity := spec.entity, filters := spec.filters }

end QuerySpec

/-- A row to be stored. -/
structure CreateSpec where
  entity : String
  data : Record
  deriving DecidableEq

/-- Fields to be written to the rows that satisfy all filters. -/
structure UpdateSpec where
  entity : String
  filters : List Filter
  patch : Record

/-- The rows to be removed. -/
structure DeleteSpec where
  entity : String
  filters : List Filter

end RecordQuery
