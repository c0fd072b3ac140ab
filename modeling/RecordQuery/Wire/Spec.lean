import RecordQuery.Spec
import RecordQuery.Wire.Filter

/-!
# Specifications and results on the wire

The written forms of order clauses, windows, the four specifications, settings
and query results. Parts of a query that are not written are empty.
-/

namespace RecordQuery

namespace Direction

/-- Read a direction. -/
def ofWire? : Value → Option Direction := Wire.oneOf? name [ascending, descending]

end Direction

namespace OrderClause

/-- Write an order clause. -/
def toWire (clause : OrderClause) : Value :=
  .object [("field", clause.field.toWire), ("direction", .text clause.direction.name)]

/-- Read an order clause. -/
def ofWire? (value : Value) : Option OrderClause :=
  match Wire.parts? ["field", "direction"] value with
  | some [field, direction] => do
      let field ← Wire.required? Path.ofWire? field
      let direction ← Wire.required? Direction.ofWire? direction
      return { field, direction }
  | _ => none

end OrderClause

namespace Page

/-- Read a page from its number and size. -/
def ofParts? (number size : Leaf) : Option Page := do
  let number ← Wire.required? Wire.position? number
  let size ← Wire.required? Wire.position? size
  return { number, size }

/-- Write a page. -/
def toWire (page : Page) : Value :=
  .object [("pageNo", Wire.ofPosition page.number), ("pageSize", Wire.ofPosition page.size)]

end Page

namespace Window

/-- Write a window. A range always has its limit written. -/
def toWire : Window → Value
  | all => .object [("kind", .text "all")]
  | page numbered =>
      .object [("kind", .text "page"), ("pageNo", Wire.ofPosition numbered.number),
        ("pageSize", Wire.ofPosition numbered.size)]
  | range skip limit =>
      .object [("kind", .text "range"), ("skip", Wire.ofPosition skip),
        ("limit", limit.elim .null Wire.ofPosition)]

/-- Read a range from its parts. -/
def rangeOfParts? (skip limit : Leaf) : Option Window := do
  let skip ← Wire.required? Wire.position? skip
  let limit ← Wire.optional? Wire.position? limit
  return .range skip limit

/-- Read a window. The kind says which other fields are read. -/
def ofWire? : Value → Option Window
  | .object fields =>
      match Keyed.get? fields "kind" with
      | some (.text "all") => some .all
      | some (.text "page") =>
          (Page.ofParts? (Keyed.get? fields "pageNo") (Keyed.get? fields "pageSize")).map .page
      | some (.text "range") =>
          rangeOfParts? (Keyed.get? fields "skip") (Keyed.get? fields "limit")
      | _ => none
  | .list [.text "all"] => some .all
  | .list [.text "page", number, size] => (Page.ofParts? (some number) (some size)).map .page
  | .list [.text "range", skip, limit] => rangeOfParts? (some skip) (some limit)
  | _ => none

end Window

namespace QuerySpec

/-- The names of a query's parts. -/
def partNames : List String := ["entity", "where", "include", "select", "orderBy", "window"]

/-- Write a query with all its parts. -/
def toWire (spec : QuerySpec) : Value :=
  .object [("entity", .text spec.entity), ("where", .list (Filter.toWires spec.filters)),
    ("include", Wire.ofTexts spec.relations), ("select", Wire.ofTexts spec.select),
    ("orderBy", .list (spec.order.map OrderClause.toWire)), ("window", spec.window.toWire)]

/-- Read a query. Only the entity must be written. -/
def ofWire? (value : Value) : Option QuerySpec :=
  match Wire.parts? partNames value with
  | some [entity, filters, relations, select, order, window] => do
      let entity ← Wire.required? Wire.text? entity
      let filters ← Wire.defaulted? Filter.listOfWire? [] filters
      let relations ← Wire.defaulted? (Wire.list? Wire.text?) [] relations
      let select ← Wire.defaulted? (Wire.list? Wire.text?) [] select
      let order ← Wire.defaulted? (Wire.list? OrderClause.ofWire?) [] order
      let window ← Wire.defaulted? Window.ofWire? .all window
      return { entity, filters, relations, select, order, window }
  | _ => none

end QuerySpec

namespace CreateSpec

/-- Write a creation. -/
def toWire (spec : CreateSpec) : Value :=
  .object [("entity", .text spec.entity), ("data", .object spec.data)]

/-- Read a creation. -/
def ofWire? (value : Value) : Option CreateSpec :=
  match Wire.parts? ["entity", "data"] value with
  | some [entity, data] => do
      let entity ← Wire.required? Wire.text? entity
      let data ← Wire.required? Wire.record? data
      return { entity, data }
  | _ => none

end CreateSpec

namespace UpdateSpec

/-- Write an update. -/
def toWire (spec : UpdateSpec) : Value :=
  .object [("entity", .text spec.entity), ("where", .list (Filter.toWires spec.filters)),
    ("patch", .object spec.patch)]

/-- Read an update. -/
def ofWire? (value : Value) : Option UpdateSpec :=
  match Wire.parts? ["entity", "where", "patch"] value with
  | some [entity, filters, patch] => do
      let entity ← Wire.required? Wire.text? entity
      let filters ← Wire.defaulted? Filter.listOfWire? [] filters
      let patch ← Wire.required? Wire.record? patch
      return { entity, filters, patch }
  | _ => none

end UpdateSpec

namespace DeleteSpec

/-- Write a deletion. -/
def toWire (spec : DeleteSpec) : Value :=
  .object [("entity", .text spec.entity), ("where", .list (Filter.toWires spec.filters))]

/-- Read a deletion. -/
def ofWire? (value : Value) : Option DeleteSpec :=
  match Wire.parts? ["entity", "where"] value with
  | some [entity, filters] => do
      let entity ← Wire.required? Wire.text? entity
      let filters ← Wire.defaulted? Filter.listOfWire? [] filters
      return { entity, filters }
  | _ => none

end DeleteSpec

namespace Settings

/-- The names of the parts of settings. -/
def partNames : List String := ["id_field", "created_at_field", "updated_at_field", "id_strategy"]

/-- Write settings. -/
def toWire (settings : Settings) : Value :=
  .object [("id_field", .text settings.idField),
    ("created_at_field", .text settings.createdAtField),
    ("updated_at_field", .text settings.updatedAtField),
    ("id_strategy", .text settings.idStrategy.name)]

/-- Read a strategy. -/
def strategyOfWire? : Value → Option IdStrategy := Wire.oneOf? IdStrategy.name [.uuid, .prefixed]

/-- Read settings. What is not written has its default. -/
def ofWire? (value : Value) : Option Settings :=
  let usual : Settings := {}
  match Wire.parts? partNames value with
  | some [idField, createdAtField, updatedAtField, idStrategy] => do
      let idField ← Wire.defaulted? Wire.text? usual.idField idField
      let createdAtField ← Wire.defaulted? Wire.text? usual.createdAtField createdAtField
      let updatedAtField ← Wire.defaulted? Wire.text? usual.updatedAtField updatedAtField
      let idStrategy ← Wire.defaulted? strategyOfWire? usual.idStrategy idStrategy
      return { idField, createdAtField, updatedAtField, idStrategy }
  | _ => none

end Settings

namespace PageSummary

/-- Write a page summary. -/
def toWire (summary : PageSummary) : Value :=
  .object [("pageNo", Wire.ofPosition summary.number), ("pageSize", Wire.ofPosition summary.size),
    ("totalPages", Wire.ofPosition summary.totalPages)]

end PageSummary

namespace QueryResult

/-- Write a result whose rows are written by `row`. Only pages have a summary. -/
def toWire {α : Type} (row : α → Value) (result : QueryResult α) : Value :=
  .object <|
    [("data", .list (result.data.map row)), ("total", Wire.ofPosition result.total)] ++
    match result.pagination with
    | some summary => [("pagination", summary.toWire)]
    | none => []

end QueryResult

end RecordQuery
