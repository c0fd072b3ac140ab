import RecordQuery.Number.Decimal

/-!
# Numbers in records

A number is an integer or a finite binary64 number, and the two stay apart: `1`
and `1.0` are different values that compare as equal. Two integers are compared
exactly. As soon as one side is a float, both are rounded to binary64 first.
-/

namespace RecordQuery

/-- A number as a record holds it. -/
inductive Number where
  | int (value : Int)
  | float (value : Double)
  deriving DecidableEq

/-- The three kinds of number that callers can tell apart. -/
inductive NumberKind where
  | signed
  | unsigned
  | float
  deriving DecidableEq

namespace Number

/-- The first integer above the signed 64-bit words. -/
abbrev signedLimit : Int := 0x8000000000000000

/-- The first integer above the unsigned 64-bit words. -/
abbrev unsignedLimit : Int := 0x10000000000000000

/-- The integers of a signed 64-bit word. -/
def fitsSigned (value : Int) : Bool := -signedLimit ≤ value && value < signedLimit

/-- The integers that are held exactly: those of a signed or an unsigned 64-bit
word. -/
def fitsInteger (value : Int) : Bool := -signedLimit ≤ value && value < unsignedLimit

/-- Integers that fit a signed word are signed, the larger ones unsigned. -/
def kind : Number → NumberKind
  | .int value => if value < signedLimit then .signed else .unsigned
  | .float _ => .float

/-- The number as binary64, integers rounded to nearest with ties to even. -/
def toBinary64 : Number → Binary64
  | .int value => .ofInt value
  | .float value => .finite value

/-- Numeric comparison: exact between integers, binary64 otherwise. -/
def compare? : Number → Number → Option Ordering
  | .int left, .int right => some (compare left right)
  | left, right => left.toBinary64.compare? right.toBinary64

end Number

/-- How floats are written: positionally while the exponent of the leading digit
lies in `[positionalFrom, positionalTo)`, otherwise with an exponent. -/
structure FloatFormat where
  positionalFrom : Int
  positionalTo : Int

/-- Floats are positional from `0.00001` up to sixteen whole digits. -/
def FloatFormat.compact : FloatFormat := ⟨-5, 16⟩

namespace FloatFormat

/-- Digits with the point after the leading one moved by `exponent` places. A
whole number keeps `.0`, so that it reads back as a float. -/
def positional (digits : List Char) (exponent : Int) : List Char :=
  if exponent < 0 then
    '0' :: '.' :: List.replicate (-exponent - 1).toNat '0' ++ digits
  else
    let whole := exponent.toNat + 1
    if digits.length ≤ whole then
      digits ++ List.replicate (whole - digits.length) '0' ++ ['.', '0']
    else digits.take whole ++ '.' :: digits.drop whole

/-- One digit before the point, and a signed exponent. -/
def scientific (digits : List Char) (exponent : Int) : List Char :=
  let mantissa :=
    match digits with
    | first :: second :: rest => first :: '.' :: second :: rest
    | short => short
  let sign := if exponent < 0 then '-' else '+'
  mantissa ++ 'e' :: sign :: decimalDigits exponent.natAbs

/-- The text of a finite number: the fewest digits that read back, trailing
zeros of the coefficient dropped. -/
def write (format : FloatFormat) (value : Double) : List Char :=
  let sign := if value.negative then ['-'] else []
  if value.magnitude.val = 0 then sign ++ ['0', '.', '0']
  else
    let decimal := value.shortest
    let written := decimalDigits decimal.coefficient
    let exponent := decimal.exponent + written.length - 1
    let digits := (written.reverse.dropWhile (· = '0')).reverse
    sign ++
      if format.positionalFrom ≤ exponent ∧ exponent < format.positionalTo then
        positional digits exponent
      else scientific digits exponent

end FloatFormat

/-- The text of a number. -/
def Number.write : Number → List Char
  | .int value =>
      (if value < 0 then ['-'] else []) ++ decimalDigits value.natAbs
  | .float value => FloatFormat.compact.write value

end RecordQuery
