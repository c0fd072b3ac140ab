import RecordQuery.Builder.Query
import RecordQuery.Builder.Selection
import RecordQuery.Builder.Update
import RecordQuery.World

/-!
# Sessions

The commands on entities: create, save, find, query, update and remove. A session
is its settings; where a command goes is decided by the world when it runs. What a
session shares with its clones, the binding of the active adapter, is in the world
too, so that a clone is the session itself.
-/

namespace RecordQuery

/-- What commands need besides a world. -/
structure Session where
  settings : Settings := {}

namespace Session

variable {α : Type}

/-- The field rules of an entity under the session's settings. -/
def rules (session : Session) (entity : Entity α) : FieldRules :=
  ⟨entity.name, entity.declared, session.settings⟩

@[simp] theorem entity_rules (session : Session) (entity : Entity α) :
    (session.rules entity).entity = entity.name := rfl

@[simp] theorem settings_rules (session : Session) (entity : Entity α) :
    (session.rules entity).settings = session.settings := rfl

/-- Store a payload as a new row, and answer with the row as stored. -/
def create (_session : Session) (entity : Entity α) (payload : Payload) : Engine α := do
  let data ← Engine.ofExcept (payloadRecord entity.name payload)
  let stored ← Engine.call (Adapter.create ⟨entity.name, data⟩)
  Engine.ofExcept (entity.fromRecord stored)

/-- The finished query of a builder. -/
def compile (session : Session) (entity : Entity α) (builder : QueryBuilder) :
    Except Error QuerySpec :=
  builder.compile (session.rules entity)

/-- The rows of a query, as records. -/
def records (session : Session) (entity : Entity α) (builder : QueryBuilder) :
    Engine (QueryResult Record) := do
  let spec ← Engine.ofExcept (session.compile entity builder)
  Engine.call (Adapter.query spec)

/-- The rows of a query, as values of the entity. -/
def execute (session : Session) (entity : Entity α) (builder : QueryBuilder) :
    Engine (QueryResult α) := do
  let result ← session.records entity builder
  let data ← Engine.ofExcept (result.data.mapM entity.fromRecord)
  return ⟨data, result.total, result.pagination⟩

/-- The first row of a query, if it has one. -/
def first (session : Session) (entity : Entity α) (builder : QueryBuilder) :
    Engine (Option α) := do
  let spec ← Engine.ofExcept (session.compile entity builder)
  match ← Engine.call (Adapter.queryFirst spec) with
  | some record => some <$> Engine.ofExcept (entity.fromRecord record)
  | none => return none

/-- The number of rows that satisfy a query's filters. -/
def count (session : Session) (entity : Entity α) (builder : QueryBuilder) : Engine Nat := do
  let spec ← Engine.ofExcept (builder.compileCount (session.rules entity))
  Engine.call (Adapter.count spec)

/-- Whether any row satisfies a query's filters. -/
def anyMatch (session : Session) (entity : Entity α) (builder : QueryBuilder) : Engine Bool := do
  return (← session.count entity builder) > 0

/-- The query for the row with an id. -/
def byId (session : Session) (id : String) : QueryBuilder :=
  { filters := ({} : FilterSet).andWhere (.parse session.settings.idField) .eq (.text id) }

/-- The row with an id, if there is one. -/
def findById (session : Session) (entity : Entity α) (id : String) : Engine (Option α) :=
  session.first entity (session.byId id)

/-- The row with an id, which must be there. -/
def findByIdOrThrow (session : Session) (entity : Entity α) (id : String) : Engine α := do
  match ← session.findById entity id with
  | some value => return value
  | none => throw (.notFound entity.name id)

/-- Write fields to the rows that satisfy the filters, and say how many. -/
def update (session : Session) (entity : Entity α) (builder : UpdateBuilder) : Engine Nat := do
  let now ← Engine.drawTime
  let spec ← Engine.ofExcept (builder.compile (session.rules entity) now)
  Engine.call (Adapter.update spec)

/-- Remove the rows that satisfy the filters, and say how many. -/
def remove (session : Session) (entity : Entity α) (set : FilterSet) : Engine Nat := do
  let spec ← Engine.ofExcept (set.compileDelete (session.rules entity))
  Engine.call (Adapter.delete spec)

/-- The first listed name that the entity does not have. -/
def selectionProblem? (session : Session) (entity : Entity α) (selection : Selection) :
    Option Error :=
  (selection.listed.find? fun name => !(session.rules entity).knows name).map
    (.unknownField entity.name)

/-- The update that saving a record with an id makes. -/
def savingUpdate (session : Session) (entity : Entity α) (selection : Selection) (id : Value)
    (record : Record) : UpdateSpec :=
  { entity := entity.name
    filters := [.condition (.of (.parse session.settings.idField) .eq id)]
    patch := selection.apply session.settings record }

/-- Save a record with an id: write its selected fields to the row with that id.
The answer is the whole record, whatever was selected. -/
def saveStored (session : Session) (entity : Entity α) (selection : Selection)
    (record : Record) : Engine α := do
  let now ← Engine.drawTime
  let stamped := record.put session.settings.updatedAtField (.text now)
  let id := (Record.id session.settings stamped).getD .null
  let matched ← Engine.call
    (Adapter.update (session.savingUpdate entity selection id stamped))
  if matched = 0 then throw (.notFound entity.name (Leaf.idText (some id)))
  Engine.ofExcept (entity.fromRecord stamped)

/-- Save a record without an id: give it one, and store it as a new row. -/
def saveFresh (session : Session) (entity : Entity α) (record : Record) : Engine α := do
  let identified ← Engine.completeId session.settings entity.name record
  let now ← Engine.drawTime
  let prepared := Record.stampIfAbsent session.settings.createdAtField now identified
  let stored ← Engine.call (Adapter.create ⟨entity.name, prepared⟩)
  Engine.ofExcept (entity.fromRecord stored)

/-- Save a record: its children get ids, then it is written to the row with its id,
or stored as a new row if it has no id. -/
def saveRecord (session : Session) (entity : Entity α) (selection : Selection)
    (record : Record) : Engine α := do
  let completed ← Engine.completeChildren session.settings record
  if Record.hasId session.settings completed then session.saveStored entity selection completed
  else session.saveFresh entity completed

/-- Save a value, once its selection is sound and it has been encoded. -/
def save (session : Session) (entity : Entity α) (value : α) (selection : Selection) :
    Engine α := do
  Engine.ofExcept (rejectIf (session.selectionProblem? entity selection))
  let record ← Engine.ofExcept (entity.toRecord value)
  session.saveRecord entity selection record

/-- Save values one after the other, up to the first failure. Each is handed out only
when it is its turn, which may change the world, for instance its active adapter. -/
def saveEach (session : Session) (entity : Entity α) (items : List (Engine α)) :
    Engine (List α) :=
  items.mapM fun item => do
    let value ← item
    session.save entity value .whole

/-- Save values that are at hand. -/
def saveAll (session : Session) (entity : Entity α) (values : List α) : Engine (List α) :=
  session.saveEach entity (values.map pure)

end Session

end RecordQuery
