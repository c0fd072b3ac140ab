/-!
# Hexadecimal digits

Characters that are written by their number are written in hexadecimal digits of
either case, always a fixed number of them.
-/

namespace RecordQuery.Text

/-- The value of a hexadecimal digit. -/
def hexValue? (digit : Char) : Option Nat :=
  if '0' ≤ digit ∧ digit ≤ '9' then some (digit.toNat - 48)
  else if 'a' ≤ digit ∧ digit ≤ 'f' then some (digit.toNat - 87)
  else if 'A' ≤ digit ∧ digit ≤ 'F' then some (digit.toNat - 55)
  else none

/-- The number that starts a text with exactly `count` digits, and the text after
it. -/
def readHex? (count : Nat) (text : List Char) : Option (Nat × List Char) :=
  let digits := text.take count
  if digits.length < count then none
  else
    (digits.mapM hexValue?).map fun values =>
      (values.foldl (fun number value => 16 * number + value) 0, text.drop count)

end RecordQuery.Text
