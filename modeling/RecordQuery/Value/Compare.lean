import RecordQuery.Value.Basic
import RecordQuery.Number.Numeral

/-!
# Equality and order of values

Three comparisons, each with its own idea of what goes together. Equality is
structural, with numbers compared numerically and the order of fields ignored.
The ordered comparison of conditions relates only values of one kind, and a
number with a text that spells a number. The order of sort keys relates any two
keys: nothing and null last, and different kinds by kind.
-/

namespace RecordQuery

namespace Value

mutual

/-- Value equality. Numbers are equal when they compare as equal, lists item by
item, and objects when they have equally many fields and each field on the left
has an equal one under the same key on the right. -/
def equal : Value → Value → Bool
  | .null, .null => true
  | .bool left, .bool right => left == right
  | .number left, .number right => left.compare? right == some .eq
  | .text left, .text right => left == right
  | .list lefts, .list rights => equalItems lefts rights
  | .object lefts, .object rights => lefts.length == rights.length && equalFields lefts rights
  | _, _ => false

/-- Equality of lists, item by item. -/
def equalItems : List Value → List Value → Bool
  | [], [] => true
  | left :: lefts, right :: rights => equal left right && equalItems lefts rights
  | _, _ => false

/-- Whether every field has an equal one among `rights`. -/
def equalFields : List (String × Value) → Record → Bool
  | [], _ => true
  | (key, left) :: lefts, rights =>
      (match rights.get? key with
        | some right => equal left right
        | none => false) && equalFields lefts rights

end

/-- The ordered comparison of conditions. A number is compared with a text by
the number that the text spells; all other mixtures are incomparable. -/
def compareCoerced? : Value → Value → Option Ordering
  | .number left, .number right => left.compare? right
  | .text left, .text right => some (compare left right)
  | .bool left, .bool right => some (compare left right)
  | .number left, .text right =>
      (Binary64.ofText? right).bind fun number => left.toBinary64.compare? number
  | .text left, .number right =>
      (Binary64.ofText? left).bind fun number => number.compare? right.toBinary64
  | _, _ => none

/-- The rank of a kind of value among sort keys. -/
def kindRank : Value → Nat
  | .bool _ => 0
  | .number _ => 1
  | .text _ => 2
  | .list _ => 3
  | .object _ => 4
  | .null => 5

/-- The order of two values that are not null: naturally within booleans,
numbers and texts, otherwise by kind. Two lists tie, and so do two objects. -/
def comparePresent : Value → Value → Ordering
  | .number left, .number right => (left.compare? right).getD .eq
  | .text left, .text right => compare left right
  | .bool left, .bool right => compare left right
  | left, right => compare left.kindRank right.kindRank

end Value

namespace Leaf

/-- Nothing, or null. -/
def isNullish : Leaf → Bool
  | none => true
  | some .null => true
  | some _ => false

/-- The order of sort keys. Nothing and null tie and come after all else. -/
def compareKeys (left right : Leaf) : Ordering :=
  match left, right with
  | none, none | none, some .null | some .null, none | some .null, some .null => .eq
  | none, some _ | some .null, some _ => .gt
  | some _, none | some _, some .null => .lt
  | some left, some right => left.comparePresent right

end Leaf

end RecordQuery
