import RecordQuery.Text.Pieces
import RecordQuery.Value.Compare

/-!
# Field paths

A path names a field of a record, or a field inside an embedded object, by its
segments. Following a path through a list goes on in every item, so a path can
reach several places of one row, or none.
-/

namespace RecordQuery

/-- A path as its list of segments. -/
structure Path where
  segments : List String
  deriving DecidableEq

namespace Path

/-- Read a path: segments are separated by dots, and empty ones are dropped. -/
def parse (text : String) : Path :=
  ⟨((Text.pieces '.' text.toList).filter fun piece => !piece.isEmpty).map String.ofList⟩

/-- The segments joined by dots. -/
def display (path : Path) : String := ".".intercalate path.segments

/-- One path after another. -/
def join (path suffix : Path) : Path := ⟨path.segments ++ suffix.segments⟩

/-- The first segment, which is a field of the record itself. -/
def root? (path : Path) : Option String := path.segments.head?

/-- More than one segment. -/
def isNested (path : Path) : Bool := path.segments.length > 1

/-- No segment. -/
def isEmpty (path : Path) : Bool := path.segments.isEmpty

end Path

/-- The places that a path reaches in a row, and whether it went through a
list on the way. A place is missing where a segment is. -/
structure Reached where
  fanned : Bool
  leaves : List Leaf
  deriving DecidableEq

namespace Reached

/-- A path that ends in one place without going through a list. -/
def single (leaf : Leaf) : Reached := ⟨false, [leaf]⟩

/-- The sort key: the one place reached, or nothing after a list. -/
def sortKey (reached : Reached) : Leaf :=
  if reached.fanned then none else reached.leaves.head?.join

end Reached

namespace Value

mutual

/-- Take one segment from a value and go on with `next` from the field found.
A list takes the segment in each of its items. -/
def descend (segment : String) (next : Value → Reached) : Value → Reached
  | .object fields =>
      match Keyed.get? fields segment with
      | some value => next value
      | none => .single none
  | .list items => ⟨true, descendItems segment next items⟩
  | _ => .single none

/-- The places reached from all items, in order. -/
def descendItems (segment : String) (next : Value → Reached) : List Value → List Leaf
  | [] => []
  | item :: rest => (descend segment next item).leaves ++ descendItems segment next rest

end

/-- Follow segments from a value. -/
def reach : List String → Value → Reached
  | [], value => .single (some value)
  | segment :: rest, value => descend segment (reach rest) value

end Value

namespace Path

/-- Follow a path from a record. The empty path reaches nothing. -/
def resolve (path : Path) (row : Record) : Reached :=
  match path.segments with
  | [] => .single none
  | first :: rest =>
      match row.get? first with
      | some value => value.reach rest
      | none => .single none

end Path

end RecordQuery
