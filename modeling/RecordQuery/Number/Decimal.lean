import RecordQuery.Number.Binary64

/-!
# Decimal numbers and their binary64 neighbours

A decimal number is a signed coefficient with a power of ten. This module reads
the digits of one from text, rounds one to the nearest binary64 number, and
finds the decimal with the fewest digits that rounds back to a given number.
-/

namespace RecordQuery

/-- The digits of a natural number, most significant first. -/
def decimalDigits (value : Nat) : List Char := Nat.toDigits 10 value

/-- The value of a digit character, or nothing for any other character. -/
def digitValue? (digit : Char) : Option Nat :=
  if '0' ≤ digit ∧ digit ≤ '9' then some (digit.toNat - '0'.toNat) else none

/-- The natural number that a run of digits stands for. -/
def digitsValue (digits : List Char) : Nat :=
  digits.foldl (fun value digit => 10 * value + (digit.toNat - '0'.toNat)) 0

/-- The leading run of digits, and the text after it. -/
def spanDigits (text : List Char) : List Char × List Char :=
  text.span fun character => (digitValue? character).isSome

/-- A signed coefficient times a power of ten. The sign is kept apart so that
zero can be negative. -/
structure Decimal where
  negative : Bool
  coefficient : Nat
  exponent : Int
  deriving DecidableEq

namespace Decimal

/-- The nearest binary64 number. Decimals far outside the range are settled by
their size, so that the power of ten never grows with the written exponent. -/
def toBinary64 (decimal : Decimal) : Binary64 :=
  let size : Int := (decimalDigits decimal.coefficient).length + decimal.exponent
  if decimal.coefficient = 0 ∨ size < -330 then .finite (.zero decimal.negative)
  else if 310 < size then .infinite decimal.negative
  else if 0 ≤ decimal.exponent then
    .ofQuotient decimal.negative (decimal.coefficient * Nat.pow 10 decimal.exponent.toNat) 1
  else .ofQuotient decimal.negative decimal.coefficient (Nat.pow 10 (-decimal.exponent).toNat)

/-- Split off a sign. A text without one is positive. -/
def takeSign : List Char → Bool × List Char
  | '-' :: rest => (true, rest)
  | '+' :: rest => (false, rest)
  | text => (false, text)

/-- An exponent mark with its signed digits, or no exponent at all. An exponent
mark without digits is not a number. -/
def readExponent? : List Char → Option (Int × List Char)
  | mark :: rest =>
      if mark = 'e' ∨ mark = 'E' then
        let (negative, unsigned) := takeSign rest
        match spanDigits unsigned with
        | ([], _) => none
        | (digits, after) =>
            some (if negative then -(digitsValue digits : Int) else digitsValue digits, after)
      else some (0, mark :: rest)
  | [] => some (0, [])

/-- The digits after a point, if the text goes on with a point. -/
def readFraction : List Char → List Char × List Char
  | '.' :: rest => spanDigits rest
  | text => ([], text)

/-- An unsigned decimal with at least one digit, on either side of the point. -/
def readUnsigned? (negative : Bool) (text : List Char) : Option (Decimal × List Char) :=
  let (whole, afterWhole) := spanDigits text
  let (fraction, afterFraction) := readFraction afterWhole
  if whole.isEmpty && fraction.isEmpty then none
  else
    (readExponent? afterFraction).map fun (exponent, rest) =>
      (⟨negative, digitsValue (whole ++ fraction), exponent - fraction.length⟩, rest)

end Decimal

namespace Double

/-- Four times a finite magnitude in units of `2 ^ (-1074)`. The factor makes
the borders of its rounding interval whole numbers. -/
def quadruple (value : Double) : Nat := 4 * value.units

/-- The border below a magnitude, in quarter units: half way to the next number
down, which is closer when the significand is the smallest of its exponent. -/
def lowerBorder (value : Double) : Nat :=
  if value.significand = fractionPatterns ∧ 0 < value.place then
    value.quadruple - Nat.pow 2 value.place
  else value.quadruple - 2 * Nat.pow 2 value.place

/-- The border above a magnitude, in quarter units. -/
def upperBorder (value : Double) : Nat := value.quadruple + 2 * Nat.pow 2 value.place

/-- Compare `coefficient * 10 ^ exponent` with a number of quarter units. -/
def compareDecimal (coefficient : Nat) (exponent : Int) (quarters : Nat) : Ordering :=
  if 0 ≤ exponent then
    compare (coefficient * Nat.pow 10 exponent.toNat * Nat.pow 2 1076) quarters
  else compare (coefficient * Nat.pow 2 1076) (quarters * Nat.pow 10 (-exponent).toNat)

/-- Whether a positive decimal rounds to the magnitude. The borders themselves
round to the even significand. -/
def accepts (value : Double) (coefficient : Nat) (exponent : Int) : Bool :=
  let below := compareDecimal coefficient exponent value.lowerBorder
  let above := compareDecimal coefficient exponent value.upperBorder
  if value.significand % 2 = 0 then below != .lt && above != .gt
  else below == .gt && above == .lt

/-- The decimal exponent of the leading digit of a positive magnitude. It is
read off the number of digits of the magnitude times `10 ^ 400`. -/
def leadingExponent (value : Double) : Int :=
  (decimalDigits (value.quadruple * Nat.pow 10 400 / Nat.pow 2 1076)).length - 401

/-- The multiple of `10 ^ exponent` just below a magnitude, in that unit. -/
def gridBelow (value : Double) (exponent : Int) : Nat :=
  if 0 ≤ exponent then value.quadruple / (Nat.pow 2 1076 * Nat.pow 10 exponent.toNat)
  else value.quadruple * Nat.pow 10 (-exponent).toNat / Nat.pow 2 1076

/-- Of the two neighbours on a decimal grid, the one that rounds back; of two
such, the nearer, and the even one when both are equally near. -/
def onGrid? (value : Double) (exponent : Int) : Option Nat :=
  let low := value.gridBelow exponent
  match value.accepts low exponent, value.accepts (low + 1) exponent with
  | true, false => some low
  | false, true => some (low + 1)
  | false, false => none
  | true, true =>
      match compareDecimal (2 * low + 1) exponent (2 * value.quadruple) with
      | .gt => some low
      | .lt => some (low + 1)
      | .eq => some (low + low % 2)

/-- The decimal with the fewest digits that rounds back to the number, and of
those the nearest. Seventeen digits are always enough. -/
def shortest (value : Double) : Decimal :=
  let lead := value.leadingExponent
  match (List.range 17).findSome? fun (digits : Nat) =>
      (value.onGrid? (lead - digits)).map fun coefficient => (coefficient, lead - digits) with
  | some (coefficient, exponent) => ⟨value.negative, coefficient, exponent⟩
  | none => ⟨value.negative, value.gridBelow (lead - 16), lead - 16⟩

end Double

end RecordQuery
