import RecordQuery.Number.Literal
import RecordQuery.Text.Hexadecimal
import RecordQuery.Value.Basic

/-!
# Reading JSON text

A reader that keeps what records need kept: the order of fields, and whether a
number was written as an integer. A key that is written twice keeps its first
position and its last value.
-/

namespace RecordQuery.Json

/-- Text after the blanks that may stand between tokens. -/
def skipBlanks (text : List Char) : List Char :=
  text.dropWhile fun character =>
    character = ' ' || character = '\n' || character = '\r' || character = '\t'

/-- Text after an expected beginning. -/
def expect? : List Char → List Char → Option (List Char)
  | [], text => some text
  | wanted :: more, character :: rest => if wanted = character then expect? more rest else none
  | _ :: _, [] => none

/-- The character of an escape by code unit. Characters beyond the first plane
are written as two units; half of such a pair stands for nothing. -/
def readEscapedPoint? (text : List Char) : Option (Char × List Char) := do
  let (high, afterHigh) ← Text.readHex? 4 text
  if 0xD800 ≤ high ∧ high < 0xDC00 then
    let (low, afterLow) ← Text.readHex? 4 (← expect? ['\\', 'u'] afterHigh)
    if 0xDC00 ≤ low ∧ low < 0xE000 then
      some (Char.ofNat (0x10000 + (high - 0xD800) * 0x400 + (low - 0xDC00)), afterLow)
    else none
  else if 0xDC00 ≤ high ∧ high < 0xE000 then none
  else some (Char.ofNat high, afterHigh)

/-- One character of a quoted text, after a backslash. -/
def readEscape? : List Char → Option (Char × List Char)
  | 'u' :: rest => readEscapedPoint? rest
  | 'n' :: rest => some ('\n', rest)
  | 'r' :: rest => some ('\r', rest)
  | 't' :: rest => some ('\t', rest)
  | 'b' :: rest => some (Char.ofNat 8, rest)
  | 'f' :: rest => some (Char.ofNat 12, rest)
  | '"' :: rest => some ('"', rest)
  | '\\' :: rest => some ('\\', rest)
  | '/' :: rest => some ('/', rest)
  | _ => none

/-- The characters up to the closing quote. Each step takes at least one
character, so the length of the text bounds the number of steps. -/
def readQuoted? : (steps : Nat) → List Char → Option (List Char × List Char)
  | 0, _ => none
  | steps + 1, text =>
      match text with
      | '"' :: rest => some ([], rest)
      | '\\' :: rest => do
          let (character, after) ← readEscape? rest
          let (more, remaining) ← readQuoted? steps after
          some (character :: more, remaining)
      | character :: rest =>
          if character.toNat < 32 then none
          else (readQuoted? steps rest).map fun (more, remaining) => (character :: more, remaining)
      | [] => none

/-- A quoted text, after its opening quote. -/
def readText? (text : List Char) : Option (String × List Char) :=
  (readQuoted? (text.length + 1) text).map fun (characters, rest) =>
    (String.ofList characters, rest)

/-- A number: whole digits without a leading zero, then a fraction and an
exponent that each need digits. -/
def readNumber? (text : List Char) : Option (Number × List Char) := do
  let (negative, unsigned) :=
    match text with
    | '-' :: rest => (true, rest)
    | _ => (false, text)
  let (whole, afterWhole) := spanDigits unsigned
  if whole.isEmpty || (whole.length > 1 && whole.head? == some '0') then none
  else
    let (fraction, afterFraction) := Decimal.readFraction afterWhole
    if afterWhole.head? == some '.' && fraction.isEmpty then none
    else
      let (exponent, rest) ← Decimal.readExponent? afterFraction
      let isInteger := fraction.isEmpty && rest.length == afterFraction.length
      let literal : NumberLiteral := { negative, whole, fraction, exponent, isInteger }
      literal.toNumber?.map fun number => (number, rest)

mutual

/-- A value at the start of a text without leading blanks. -/
def readValue? : (steps : Nat) → List Char → Option (Value × List Char)
  | 0, _ => none
  | steps + 1, text =>
      match text with
      | '[' :: rest =>
          match skipBlanks rest with
          | ']' :: after => some (.list [], after)
          | start => (readItems? steps start).map fun (items, after) => (.list items, after)
      | '\x7b' :: rest =>
          match skipBlanks rest with
          | '\x7d' :: after => some (.object [], after)
          | start =>
              (readFields? steps start).map fun (fields, after) =>
                (.object (Keyed.ofList fields), after)
      | '"' :: rest => (readText? rest).map fun (value, after) => (.text value, after)
      | 't' :: rest => (expect? ['r', 'u', 'e'] rest).map (.bool true, ·)
      | 'f' :: rest => (expect? ['a', 'l', 's', 'e'] rest).map (.bool false, ·)
      | 'n' :: rest => (expect? ['u', 'l', 'l'] rest).map (.null, ·)
      | _ => (readNumber? text).map fun (value, after) => (.number value, after)

/-- Items up to the closing bracket. -/
def readItems? : (steps : Nat) → List Char → Option (List Value × List Char)
  | 0, _ => none
  | steps + 1, text => do
      let (item, after) ← readValue? steps text
      match skipBlanks after with
      | ',' :: rest =>
          (readItems? steps (skipBlanks rest)).map fun (items, remaining) =>
            (item :: items, remaining)
      | ']' :: rest => some ([item], rest)
      | _ => none

/-- Fields up to the closing brace. -/
def readFields? : (steps : Nat) → List Char → Option (List (String × Value) × List Char)
  | 0, _ => none
  | steps + 1, text => do
      let (key, afterKey) ← readText? (← expect? ['"'] text)
      let afterColon ← expect? [':'] (skipBlanks afterKey)
      let (value, after) ← readValue? steps (skipBlanks afterColon)
      match skipBlanks after with
      | ',' :: rest =>
          (readFields? steps (skipBlanks rest)).map fun (fields, remaining) =>
            ((key, value) :: fields, remaining)
      | '\x7d' :: rest => some ([(key, value)], rest)
      | _ => none

end

/-- The value that a whole text stands for. -/
def read? (text : String) : Option Value :=
  let characters := skipBlanks text.toList
  match readValue? (2 * characters.length + 1) characters with
  | some (value, rest) => if (skipBlanks rest).isEmpty then some value else none
  | none => none

end RecordQuery.Json
