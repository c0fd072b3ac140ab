import RecordQuery.Number.Decimal
import RecordQuery.Text.Blank

/-!
# Numbers in free text

The numerals that a text may hold when it is compared with a number: an optional
sign, then `inf`, `infinity` or `nan` in any case of letters, or a decimal whose
point may stand first or last. White space around the numeral is allowed.
-/

namespace RecordQuery.Binary64

/-- The names of the numbers that are not finite. -/
def named? (negative : Bool) (name : List Char) : Option Binary64 :=
  match String.ofList (name.map Char.toLower) with
  | "inf" => some (.infinite negative)
  | "infinity" => some (.infinite negative)
  | "nan" => some .nan
  | _ => none

/-- The number that a whole text stands for. -/
def ofNumeral? (text : List Char) : Option Binary64 :=
  let (negative, unsigned) := Decimal.takeSign text
  match named? negative unsigned with
  | some number => some number
  | none =>
      match Decimal.readUnsigned? negative unsigned with
      | some (decimal, []) => some decimal.toBinary64
      | _ => none

/-- The number that a text stands for, white space around it aside. -/
def ofText? (text : String) : Option Binary64 := ofNumeral? (Text.trim text.toList)

end RecordQuery.Binary64
