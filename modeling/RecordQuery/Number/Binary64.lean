/-!
# Binary64 numbers

The numbers of the IEEE 754 binary64 format, exactly: a finite number is a sign
and a magnitude, where the magnitude is the exponent field and the fraction
field read as one natural number. Magnitudes grow with the absolute value, so
comparing two numbers is comparing two integers, and rounding a quotient is one
division in the unit `2 ^ (-1074)`.
-/

namespace RecordQuery

/-- The number of patterns of the fraction field, whose width is 52 bits. As a
significand it is the leading bit of normal numbers. -/
abbrev fractionPatterns : Nat := 0x10000000000000

/-- The number of magnitudes of finite numbers, which is also the first pattern
beyond them. -/
abbrev finiteMagnitudes : Nat := 0x7FF0000000000000

/-- A finite binary64 number. -/
structure Double where
  negative : Bool
  magnitude : Fin finiteMagnitudes
  deriving DecidableEq

namespace Double

/-- Zero with the given sign. -/
def zero (negative : Bool) : Double := ⟨negative, ⟨0, by decide⟩⟩

/-- The magnitude with its sign. Both zeros have rank 0. -/
def rank (value : Double) : Int :=
  if value.negative then -(value.magnitude.val : Int) else value.magnitude.val

/-- The exponent of the last place, in units of `2 ^ (-1074)`. -/
def place (value : Double) : Nat := value.magnitude.val / fractionPatterns - 1

/-- The significand, with the leading bit that normal numbers leave unwritten. -/
def significand (value : Double) : Nat :=
  value.magnitude.val - value.place * fractionPatterns

/-- The absolute value in units of `2 ^ (-1074)`, in which every finite number is
whole. -/
def units (value : Double) : Nat := value.significand * Nat.pow 2 value.place

end Double

/-- A binary64 number. Only numbers read from text can be infinite or not a
number: stored numbers are always finite. -/
inductive Binary64 where
  | finite (value : Double)
  | infinite (negative : Bool)
  | nan
  deriving DecidableEq

/-- A quotient rounded to the nearest natural number, a half to the even one. -/
def roundDiv (numerator denominator : Nat) : Nat :=
  let quotient := numerator / denominator
  let twice := 2 * (numerator % denominator)
  if twice < denominator then quotient
  else if twice = denominator then quotient + quotient % 2
  else quotient + 1

/-- The magnitude nearest to a quotient of natural numbers, ties to even. The
quotient is brought to units of `2 ^ (-1074)`, and all but its first 53 binary
places are rounded away. A carry out of the significand moves to the next
exponent by itself, because both fields are one number. -/
def roundMagnitude (numerator denominator : Nat) : Nat :=
  let scaled := numerator * Nat.pow 2 1074
  let dropped := (scaled / denominator).log2 - 52
  dropped * fractionPatterns + roundDiv scaled (denominator * Nat.pow 2 dropped)

namespace Binary64

/-- The number with a sign and a magnitude. What does not fit is infinite. -/
def ofMagnitude (negative : Bool) (magnitude : Nat) : Binary64 :=
  if fits : magnitude < finiteMagnitudes then .finite ⟨negative, ⟨magnitude, fits⟩⟩
  else .infinite negative

/-- A signed quotient rounded to the nearest number. -/
def ofQuotient (negative : Bool) (numerator denominator : Nat) : Binary64 :=
  ofMagnitude negative (roundMagnitude numerator denominator)

/-- An integer rounded to the nearest number. -/
def ofInt (value : Int) : Binary64 :=
  ofQuotient (value < 0) value.natAbs 1

/-- The number if it is finite. -/
def finite? : Binary64 → Option Double
  | .finite value => some value
  | _ => none

/-- The place of a number among all numbers, or nothing for what is not a
number. -/
def rank? : Binary64 → Option Int
  | .finite value => some value.rank
  | .infinite false => some (finiteMagnitudes : Nat)
  | .infinite true => some (-(finiteMagnitudes : Nat))
  | .nan => none

/-- Numeric order. What is not a number is incomparable, also with itself. -/
def compare? (left right : Binary64) : Option Ordering :=
  match left.rank?, right.rank? with
  | some leftRank, some rightRank => some (compare leftRank rightRank)
  | _, _ => none

end Binary64

end RecordQuery
