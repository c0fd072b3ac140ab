import RecordQuery.Proofs.Keyed
import RecordQuery.Value.Basic

/-!
# Well-formed values

Values whose objects have each field once, at every depth. Plain data can hold a
field twice; values that are read from a text or collected field by field do not.
-/

namespace RecordQuery

/-- Every object in the value has each field once. -/
inductive Value.WellFormed : Value → Prop where
  | null : WellFormed .null
  | bool (value : Bool) : WellFormed (.bool value)
  | number (value : Number) : WellFormed (.number value)
  | text (value : String) : WellFormed (.text value)
  | list {items : List Value} : (∀ item ∈ items, WellFormed item) → WellFormed (.list items)
  | object {fields : List (String × Value)} : Keyed.Distinct fields →
      (∀ key value, (key, value) ∈ fields → WellFormed value) → WellFormed (.object fields)

/-- A record is well formed as an object is. -/
def Record.WellFormed (record : Record) : Prop := Value.WellFormed (.object record)

namespace Record.WellFormed

variable {record : Record}

theorem nil : Record.WellFormed [] := .object List.nodup_nil nofun

theorem distinct (wellFormed : record.WellFormed) : Keyed.Distinct record := by
  cases wellFormed with
  | object distinct _ => exact distinct

theorem value (wellFormed : record.WellFormed) {key : String} {value : Value}
    (member : (key, value) ∈ record) : value.WellFormed := by
  cases wellFormed with
  | object _ values => exact values key value member

theorem put (wellFormed : record.WellFormed) (key : String) {value : Value}
    (written : value.WellFormed) : Record.WellFormed (Keyed.put record key value) := by
  refine .object (Keyed.distinct_put wellFormed.distinct key value) ?_
  intro other present member
  rcases Keyed.mem_put member with same | kept
  · cases same
    exact written
  · exact wellFormed.value kept

end Record.WellFormed

end RecordQuery
