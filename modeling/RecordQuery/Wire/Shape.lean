import RecordQuery.Error

/-!
# Reading structured values

A structure is written as an object with a field per part. It may also be
written by position, as a list of its parts in order, where parts at the end can
be left out. Fields that are not asked for are ignored; extra positions are not.
-/

namespace RecordQuery.Wire

/-- The parts of a structure with the given field names, in their order. A part
that is not written is nothing. -/
def parts? (names : List String) : Value → Option (List Leaf)
  | .object fields => some (names.map fun name => Keyed.get? fields name)
  | .list items =>
      if items.length ≤ names.length then
        some (items.map some ++ List.replicate (names.length - items.length) none)
      else none
  | _ => none

/-- A part that must be written. -/
def required? {α : Type} (read : Value → Option α) (part : Leaf) : Option α := part.bind read

/-- A part that has a default. -/
def defaulted? {α : Type} (read : Value → Option α) (default : α) : Leaf → Option α
  | none => some default
  | some value => read value

/-- A part that may be missing or null. -/
def optional? {α : Type} (read : Value → Option α) : Leaf → Option (Option α)
  | none => some none
  | some .null => some none
  | some value => (read value).map some

/-- A text. -/
def text? : Value → Option String := Value.asText?

/-- A word from a fixed set: a text, or an object with that one field and null
under it. -/
def word? : Value → Option String
  | .text word => some word
  | .object [(word, .null)] => some word
  | _ => none

/-- A word that stands for one of the given values. -/
def oneOf? {α : Type} (name : α → String) (choices : List α) (value : Value) : Option α :=
  (word? value).bind fun word => choices.find? fun choice => name choice == word

/-- A position: an integer from 0 to the largest position. -/
def position? : Value → Option Nat
  | .number (.int value) =>
      if 0 ≤ value ∧ value < Number.unsignedLimit then some value.toNat else none
  | _ => none

/-- A list whose items can all be read. -/
def list? {α : Type} (read : Value → Option α) : Value → Option (List α)
  | .list items => items.mapM read
  | _ => none

/-- A record. -/
def record? : Value → Option Record := Value.asRecord?

/-- A written number that stands for a position or count. -/
def ofPosition (position : Nat) : Value := .number (.int position)

/-- A list of texts. -/
def ofTexts (texts : List String) : Value := .list (texts.map .text)

/-- What was read, or the error that the value did not have the expected shape. -/
def read {α : Type} (reader : Value → Option α) (value : Value) : Except Error α :=
  match reader value with
  | some result => .ok result
  | none => .error .serialization

end RecordQuery.Wire
