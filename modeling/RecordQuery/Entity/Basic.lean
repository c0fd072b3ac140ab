import RecordQuery.Error

/-!
# Entities

How a type of values is stored as records: its name, the fields it declares, and
its encoding. An entity that declares no fields has any field. Encoding is not up
to the entity alone: a value may hold parts that have no encoding, and then there
is no record to store.
-/

namespace RecordQuery

/-- What encoding a payload gives: a value, or the reason why there is none. -/
abbrev Payload := Except String Value

/-- A storable type. -/
structure Entity (α : Type) where
  name : String
  declared : List String := []
  encode : α → Payload
  decode? : Value → Option α

/-- A payload as a record. Only objects are records. -/
def payloadRecord (entity : String) : Payload → Except Error Record
  | .ok (.object fields) => .ok fields
  | .ok _ => .error (.notAnObject entity)
  | .error _ => .error .serialization

@[simp] theorem payloadRecord_object (entity : String) (fields : Record) :
    payloadRecord entity (.ok (.object fields)) = .ok fields := rfl

/-- A payload that makes a record was encoded, as an object. -/
theorem eq_object_of_payloadRecord {entity : String} {payload : Payload} {fields : Record}
    (made : payloadRecord entity payload = .ok fields) : payload = .ok (.object fields) := by
  unfold payloadRecord at made
  split at made <;> cases made
  rfl

namespace Entity

variable {α : Type}

/-- A value of the entity as a record. -/
def toRecord (entity : Entity α) (value : α) : Except Error Record :=
  payloadRecord entity.name (entity.encode value)

/-- A record as a value of the entity. -/
def fromRecord (entity : Entity α) (record : Record) : Except Error α :=
  match entity.decode? (.object record) with
  | some value => .ok value
  | none => .error .serialization

theorem toRecord_of_encode {entity : Entity α} {value : α} {fields : Record}
    (encoded : entity.encode value = .ok (.object fields)) :
    entity.toRecord value = .ok fields := by
  rw [toRecord, encoded, payloadRecord_object]

end Entity

end RecordQuery
