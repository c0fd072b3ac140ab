import RecordQuery.Entity.Basic
import RecordQuery.Wire.Shape

/-!
# Structured and free entities

Entities described by data. A structured entity has a fixed list of fields, each
with a shape: reading one keeps exactly those fields, in their order, and fails
where a field does not fit. Free entities take any record, or any value.
-/

namespace RecordQuery

/-- Whether a field must be there. A field with a default takes it when missing;
an optional field may be missing or null, and is then left out. -/
inductive Presence where
  | required
  | defaulted (value : Value)
  | optional

mutual

/-- What a field holds. -/
inductive Shape where
  | text
  | integer
  | structures (fields : List Field)

/-- A field of a structure. -/
inductive Field where
  | mk (name : String) (presence : Presence) (shape : Shape)

end

namespace Field

/-- The name of a field. -/
def name : Field → String
  | mk name _ _ => name

/-- A field as it is kept, given how its value is read. -/
def keep (name : String) (presence : Presence) (read : Value → Option Value) (part : Leaf) :
    Option Record :=
  match presence, part with
  | .required, none => none
  | .defaulted value, none => some [(name, value)]
  | .optional, none => some []
  | .optional, some .null => some []
  | _, some value => (read value).map fun kept => [(name, kept)]

end Field

namespace Shape

mutual

/-- Read a value of a shape. -/
def read? : Shape → Value → Option Value
  | .text, value => (Wire.text? value).map .text
  | .integer, value =>
      match value with
      | .number (.int number) =>
          if Number.fitsSigned number then some value else none
      | _ => none
  | .structures fields, value =>
      (Wire.list? (fun item =>
        ((Wire.parts? (fields.map Field.name) item).bind (readFields? fields)).map .object)
        value).map .list

/-- Read the parts of a structure. -/
def readFields? : List Field → List Leaf → Option Record
  | [], _ => some []
  | .mk name presence shape :: fields, parts =>
      match Field.keep name presence (read? shape) parts.head?.join,
          readFields? fields (parts.drop 1) with
      | some kept, some rest => some (kept ++ rest)
      | _, _ => none

end

end Shape

namespace Entity

/-- An entity with the given fields. It declares them all. -/
def ofFields (name : String) (fields : List Field) : Entity Value where
  name := name
  declared := fields.map Field.name
  encode := .ok
  decode? := fun value =>
    ((Wire.parts? (fields.map Field.name) value).bind (Shape.readFields? fields)).map .object

/-- An entity whose values are records. -/
def ofRecords (name : String) (declared : List String) : Entity Value where
  name := name
  declared := declared
  encode := .ok
  decode? := fun value => (Wire.record? value).map .object

/-- An entity whose values are any values. Only records can be stored. -/
def ofValues (name : String) (declared : List String) : Entity Value where
  name := name
  declared := declared
  encode := .ok
  decode? := some

end Entity

end RecordQuery
