import RecordQuery.Keyed
import RecordQuery.Number.Basic

/-!
# Values and records

Rows, patches and comparison values are plain data: null, booleans, numbers,
texts, lists and objects. A record is an object's fields in their order.
-/

namespace RecordQuery

/-- A value. The fields of an object keep the order in which they were given. -/
inductive Value where
  | null
  | bool (value : Bool)
  | number (value : Number)
  | text (value : String)
  | list (items : List Value)
  | object (fields : List (String × Value))

/-- The fields of one stored row. -/
abbrev Record := Keyed Value

/-- What may be found under a key or behind a path: a value, or nothing. -/
abbrev Leaf := Option Value

namespace Value

mutual

/-- Two values are decidably the same, the order of fields included. -/
def decEq : (left right : Value) → Decidable (left = right)
  | .null, .null => .isTrue rfl
  | .bool left, .bool right =>
      if same : left = right then .isTrue (by rw [same]) else .isFalse (by simp [same])
  | .number left, .number right =>
      if same : left = right then .isTrue (by rw [same]) else .isFalse (by simp [same])
  | .text left, .text right =>
      if same : left = right then .isTrue (by rw [same]) else .isFalse (by simp [same])
  | .list left, .list right =>
      match decEqItems left right with
      | .isTrue same => .isTrue (by rw [same])
      | .isFalse apart => .isFalse (by simp [apart])
  | .object left, .object right =>
      match decEqFields left right with
      | .isTrue same => .isTrue (by rw [same])
      | .isFalse apart => .isFalse (by simp [apart])
  | .null, .bool _ | .null, .number _ | .null, .text _ | .null, .list _ | .null, .object _
  | .bool _, .null | .bool _, .number _ | .bool _, .text _ | .bool _, .list _ | .bool _, .object _
  | .number _, .null | .number _, .bool _ | .number _, .text _ | .number _, .list _
  | .number _, .object _
  | .text _, .null | .text _, .bool _ | .text _, .number _ | .text _, .list _ | .text _, .object _
  | .list _, .null | .list _, .bool _ | .list _, .number _ | .list _, .text _ | .list _, .object _
  | .object _, .null | .object _, .bool _ | .object _, .number _ | .object _, .text _
  | .object _, .list _ => .isFalse nofun

/-- Equality of lists of values. -/
def decEqItems : (left right : List Value) → Decidable (left = right)
  | [], [] => .isTrue rfl
  | [], _ :: _ | _ :: _, [] => .isFalse nofun
  | left :: lefts, right :: rights =>
      match decEq left right, decEqItems lefts rights with
      | .isTrue same, .isTrue rest => .isTrue (by rw [same, rest])
      | .isFalse apart, _ => .isFalse (by simp [apart])
      | _, .isFalse apart => .isFalse (by simp [apart])

/-- Equality of fields with their order. -/
def decEqFields : (left right : List (String × Value)) → Decidable (left = right)
  | [], [] => .isTrue rfl
  | [], _ :: _ | _ :: _, [] => .isFalse nofun
  | (key, left) :: lefts, (other, right) :: rights =>
      if sameKey : key = other then
        match decEq left right, decEqFields lefts rights with
        | .isTrue same, .isTrue rest => .isTrue (by rw [sameKey, same, rest])
        | .isFalse apart, _ => .isFalse (by simp [apart])
        | _, .isFalse apart => .isFalse (by simp [apart])
      else .isFalse (by simp [sameKey])

end

instance : DecidableEq Value := decEq

/-- The text of a text value. -/
def asText? : Value → Option String
  | .text value => some value
  | _ => none

/-- The items of a list value. -/
def asList? : Value → Option (List Value)
  | .list items => some items
  | _ => none

/-- The fields of an object value. -/
def asRecord? : Value → Option Record
  | .object fields => some fields
  | _ => none

end Value

end RecordQuery
