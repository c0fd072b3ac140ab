/-!
# Settings

The names of the fields that are managed rather than supplied, and how ids are
made up.
-/

namespace RecordQuery

/-- How an id is made up: a plain unique text, or one that starts with the name
of what it is for. -/
inductive IdStrategy where
  | uuid
  | prefixed
  deriving DecidableEq

namespace IdStrategy

/-- The written form of a strategy. -/
def name : IdStrategy → String
  | uuid => "uuid"
  | prefixed => "prefixed"

/-- The strategy with a given written form. -/
def ofName? (text : String) : Option IdStrategy :=
  [uuid, prefixed].find? fun strategy => strategy.name == text

end IdStrategy

/-- Field names and id strategy, shared by sessions and stores. -/
structure Settings where
  idField : String := "id"
  createdAtField : String := "createdAt"
  updatedAtField : String := "updatedAt"
  idStrategy : IdStrategy := .uuid
  deriving DecidableEq

namespace Settings

/-- The managed fields. They are known on every entity. -/
def managed (settings : Settings) : List String :=
  [settings.idField, settings.createdAtField, settings.updatedAtField]

end Settings

end RecordQuery
