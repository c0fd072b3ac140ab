import RecordQuery.Json.Writer
import RecordQuery.Settings.Basic
import RecordQuery.Supply
import RecordQuery.Value.Compare

/-!
# Ids and timestamps of records

When a record counts as having an id, which text a store keeps it under, and how
missing ids and stamps are filled in.
-/

namespace RecordQuery

namespace Settings

/-- An id made from a unique text, for an entity or a list of children. -/
def makeId (settings : Settings) (owner unique : String) : String :=
  match settings.idStrategy with
  | .uuid => unique
  | .prefixed => owner ++ "_" ++ unique

end Settings

/-- Whether a field holds an id. Nothing, null and the empty text are no ids. -/
def Leaf.isPresentId : Leaf → Bool
  | none => false
  | some .null => false
  | some (.text value) => value != ""
  | some _ => true

/-- The text that stands for an id: a text itself, any other value by its
compact text. -/
def Leaf.idText : Leaf → String
  | none => ""
  | some .null => ""
  | some (.text value) => value
  | some value => value.compact

namespace Record

/-- The record's id, as far as it has one. -/
def id (settings : Settings) (record : Record) : Leaf := record.get? settings.idField

@[simp] theorem id_put (settings : Settings) (record : Record) (field : String) (value : Value) :
    Record.id settings (record.put field value) =
      if field = settings.idField then some value else Record.id settings record :=
  record.get?_put field settings.idField value

/-- Whether the record has an id. -/
def hasId (settings : Settings) (record : Record) : Bool := (Record.id settings record).isPresentId

/-- The text that the record's id stands for. -/
def key (settings : Settings) (record : Record) : String := (Record.id settings record).idText

/-- The record with an id: its own, or one made from a unique text. -/
def ensureId (settings : Settings) (entity unique : String) (record : Record) : Record :=
  if Record.hasId settings record then record
  else record.put settings.idField (.text (settings.makeId entity unique))

/-- The record with a stamp in a field that is missing or null. -/
def stampIfAbsent (field stamp : String) (record : Record) : Record :=
  if Leaf.isNullish (record.get? field) then record.put field (.text stamp) else record

end Record

/-- A child with an id: an object without one gets a fresh id, made for the list
that holds it. -/
def completeChild (settings : Settings) (owner : String) (supply : Supply) :
    Value → Value × Supply
  | .object fields =>
      if Record.hasId settings fields then (.object fields, supply)
      else (.object (Record.ensureId settings owner supply.id fields), supply.afterId)
  | value => (value, supply)

/-- Children with ids, one after the other. -/
def completeChildren (settings : Settings) (owner : String) (supply : Supply) :
    List Value → List Value × Supply
  | [] => ([], supply)
  | child :: rest =>
      let (completed, after) := completeChild settings owner supply child
      let (others, final) := completeChildren settings owner after rest
      (completed :: others, final)

/-- A field whose children have ids. Only lists have children, and the id field
is left alone. -/
def completeField (settings : Settings) (supply : Supply) (field : String) :
    Value → Value × Supply
  | .list children =>
      if field = settings.idField then (.list children, supply)
      else
        let (completed, after) := completeChildren settings field supply children
        (.list completed, after)
  | value => (value, supply)

/-- A record whose children have ids, one level deep. -/
def assignChildIds (settings : Settings) (supply : Supply) : Record → Record × Supply
  | [] => ([], supply)
  | (field, value) :: rest =>
      let (completed, after) := completeField settings supply field value
      let (others, final) := assignChildIds settings after rest
      ((field, completed) :: others, final)

/-- The number of ids assigned to a record's children, each of which is drawn. -/
def childIdsAssigned (settings : Settings) (supply : Supply) (record : Record) : Nat :=
  (assignChildIds settings supply record).2.idsDrawn - supply.idsDrawn

end RecordQuery
