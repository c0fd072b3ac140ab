import RecordQuery.Settings.Basic
import RecordQuery.Value.Basic

/-!
# Selecting the fields of a save

Which fields of a saved record are written when it is stored already. The id and
the time of modification always go along.
-/

namespace RecordQuery

/-- All fields, only the listed ones, or all but the listed ones. -/
inductive Selection where
  | whole
  | only (fields : List String)
  | except (fields : List String)
  deriving DecidableEq

namespace Selection

/-- The names that a selection lists. -/
def listed : Selection → List String
  | whole => []
  | only fields => fields
  | except fields => fields

/-- Whether a field is selected by name. -/
def names : Selection → String → Bool
  | whole, _ => true
  | only fields, key => fields.contains key
  | except fields, key => !fields.contains key

/-- The selected fields of a record. -/
def apply (selection : Selection) (settings : Settings) (record : Record) : Record :=
  record.filter fun (key, _) =>
    key == settings.idField || key == settings.updatedAtField || selection.names key

end Selection

end RecordQuery
