import RecordQuery.Condition
import RecordQuery.Wire.Shape

/-!
# Filters on the wire

Conditions are objects with `field`, `operator`, `value` and, where a quantifier
is given, `arrayMode`. Groups are objects with `kind` and `conditions`. Whatever
reads as a condition is one; anything else must read as a group.
-/

namespace RecordQuery

namespace Path

/-- A path is written as its dotted text. -/
def toWire (path : Path) : Value := .text path.display

/-- A path is read from its dotted text. -/
def ofWire? (value : Value) : Option Path := (Wire.text? value).map parse

end Path

namespace Quantifier

/-- The written form of a quantifier. -/
def name : Quantifier → String
  | any => "any"
  | all => "all"

/-- Read a quantifier. -/
def ofWire? : Value → Option Quantifier := Wire.oneOf? name [any, all]

end Quantifier

namespace Connective

/-- The written form of a connective. -/
def name : Connective → String
  | and => "and"
  | or => "or"

/-- Read a connective. -/
def ofWire? : Value → Option Connective := Wire.oneOf? name [and, or]

end Connective

namespace Operator

/-- Read an operator. -/
def ofWire? : Value → Option Operator := Wire.oneOf? name all

end Operator

namespace Condition

/-- The names of a condition's parts. -/
def partNames : List String := ["field", "operator", "value", "arrayMode"]

/-- Write a condition. The value is always written, the quantifier only when
there is one. -/
def toWire (condition : Condition) : Value :=
  .object <|
    [("field", condition.field.toWire), ("operator", .text condition.operator.name),
      ("value", condition.value)] ++
    match condition.quantifier with
    | some quantifier => [("arrayMode", .text quantifier.name)]
    | none => []

/-- Read a condition. A value that is not written is null. -/
def ofWire? (value : Value) : Option Condition :=
  match Wire.parts? partNames value with
  | some [field, operator, value, quantifier] => do
      let field ← Wire.required? Path.ofWire? field
      let operator ← Wire.required? Operator.ofWire? operator
      let quantifier ← Wire.optional? Quantifier.ofWire? quantifier
      return { field, operator, value := value.getD .null, quantifier }
  | _ => none

end Condition

namespace Filter

mutual

/-- Write a filter. -/
def toWire : Filter → Value
  | .condition comparison => comparison.toWire
  | .group connective members =>
      .object [("kind", .text connective.name), ("conditions", .list (toWires members))]

/-- Write several filters. -/
def toWires : List Filter → List Value
  | [] => []
  | filter :: rest => toWire filter :: toWires rest

end

/-- A group from its connective and the readings of its members. -/
def groupOf? (connective : Leaf) (members : Option (List Filter)) : Option Filter := do
  let connective ← Wire.required? Connective.ofWire? connective
  return .group connective (← members)

mutual

/-- Read a filter: as a condition if possible, otherwise as a group. -/
def ofWire? : Value → Option Filter
  | .object fields =>
      match Condition.ofWire? (.object fields) with
      | some comparison => some (.condition comparison)
      | none => groupOf? (Keyed.get? fields "kind") (membersIn? fields)
  | .list [kind, .list members] =>
      match Condition.ofWire? (.list [kind, .list members]) with
      | some comparison => some (.condition comparison)
      | none => groupOf? (some kind) (ofWires? members)
  | value => (Condition.ofWire? value).map .condition

/-- Read several filters, all of which must be readable. -/
def ofWires? : List Value → Option (List Filter)
  | [] => some []
  | value :: rest =>
      match ofWire? value, ofWires? rest with
      | some filter, some filters => some (filter :: filters)
      | _, _ => none

/-- The members of a group: the filters listed under `conditions`. -/
def membersIn? : List (String × Value) → Option (List Filter)
  | [] => none
  | (key, .list values) :: rest => if key = "conditions" then ofWires? values else membersIn? rest
  | (key, _) :: rest => if key = "conditions" then none else membersIn? rest

end

/-- Read a list of filters. -/
def listOfWire? : Value → Option (List Filter)
  | .list values => ofWires? values
  | _ => none

/-- Read a group by itself, with its connective and members. -/
def groupOfWire? (value : Value) : Option (Connective × List Filter) :=
  match Wire.parts? ["kind", "conditions"] value with
  | some [kind, members] => do
      let connective ← Wire.required? Connective.ofWire? kind
      let members ← Wire.required? listOfWire? members
      return (connective, members)
  | _ => none

end Filter

end RecordQuery
