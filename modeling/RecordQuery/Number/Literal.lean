import RecordQuery.Number.Basic

/-!
# Number literals

How a number that is written in a document becomes one that a record holds. An
integer that fits is exact. Any other literal is rounded twice: its leading
digits, as many as an unsigned 64-bit word holds, are rounded as a whole number,
and that number is then scaled by a power of ten. With at most fifteen digits
and a small exponent this gives the nearest number, with more digits it may miss
it by one place.
-/

namespace RecordQuery

namespace Double

/-- The largest power of ten that is in range, as an exponent. -/
def largestPower : Nat := 308

/-- A power of ten, rounded to the nearest number. -/
def powerOfTen (exponent : Nat) : Binary64 := (Decimal.mk false 1 exponent).toBinary64

/-- A number times a power of ten. What does not fit is infinite. -/
def timesPower (value : Double) (exponent : Nat) : Binary64 :=
  match powerOfTen exponent with
  | .finite power => .ofQuotient value.negative (value.units * power.units) (Nat.pow 2 2148)
  | other => other

/-- A number divided by a power of ten. -/
def overPower (value : Double) (exponent : Nat) : Binary64 :=
  match powerOfTen exponent with
  | .finite power => .ofQuotient value.negative value.units power.units
  | other => other

/-- A number scaled by a power of ten, in at most `steps` steps. A power below
the range is applied in parts, until zero is reached. -/
def scale? (value : Double) (exponent : Int) : (steps : Nat) → Option Double
  | 0 => some (zero value.negative)
  | steps + 1 =>
      if value.magnitude.val = 0 then some value
      else if largestPower < exponent then none
      else if 0 ≤ exponent then (value.timesPower exponent.toNat).finite?
      else if -largestPower ≤ exponent then (value.overPower (-exponent).toNat).finite?
      else
        (value.overPower largestPower).finite?.bind fun scaled =>
          scaled.scale? (exponent + largestPower) steps

end Double

/-- A literal: its digits on both sides of the point, its exponent, and whether
it is written as an integer, that is, without point and exponent. -/
structure NumberLiteral where
  negative : Bool
  whole : List Char
  fraction : List Char
  exponent : Int
  isInteger : Bool

namespace NumberLiteral

/-- Append digits to a number as long as it fits an unsigned 64-bit word. The
answer says how many digits are left over. -/
def gather (word : Nat) : List Char → Nat × Nat
  | [] => (word, 0)
  | digit :: rest =>
      let longer := digitsValue [digit] + 10 * word
      if longer < Number.unsignedLimit then gather longer rest else (word, rest.length + 1)

/-- The leading digits as a number, with the power of ten that it is scaled by. -/
def leading (literal : NumberLiteral) : Nat × Int :=
  let (word, dropped) := gather 0 literal.whole
  let (longer, unused) := gather word literal.fraction
  (longer, literal.exponent + dropped - (literal.fraction.length - unused : Nat))

/-- The literal as a float, or nothing where it is too large for one. -/
def toDouble? (literal : NumberLiteral) : Option Double :=
  let (word, exponent) := literal.leading
  (Binary64.ofQuotient literal.negative word 1).finite?.bind (·.scale? exponent 4)

/-- The number that a literal stands for. An integer that fits is kept as an
integer, except for a negative zero. Any other number is a float, and one too
large for a float is refused. -/
def toNumber? (literal : NumberLiteral) : Option Number :=
  let value : Int := digitsValue literal.whole
  let signed := if literal.negative then -value else value
  if literal.isInteger && Number.fitsInteger signed && !(literal.negative && value == 0) then
    some (.int signed)
  else literal.toDouble?.map .float

end NumberLiteral

end RecordQuery
