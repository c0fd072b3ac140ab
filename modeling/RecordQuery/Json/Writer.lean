import RecordQuery.Value.Basic

/-!
# Compact JSON text

The one-line text form of a value: no spaces, fields in their order, quotes,
backslashes and control characters escaped, everything else as it is.
-/

namespace RecordQuery.Json

/-- A hexadecimal digit below 16, in lower case. -/
def hexDigit (value : Nat) : Char := Nat.digitChar value

/-- The escape of one character inside a quoted text. -/
def escape (character : Char) : List Char :=
  if character = '"' then ['\\', '"']
  else if character = '\\' then ['\\', '\\']
  else if character = '\n' then ['\\', 'n']
  else if character = '\r' then ['\\', 'r']
  else if character = '\t' then ['\\', 't']
  else if character.toNat = 8 then ['\\', 'b']
  else if character.toNat = 12 then ['\\', 'f']
  else if character.toNat < 32 then
    ['\\', 'u', '0', '0', hexDigit (character.toNat / 16), hexDigit (character.toNat % 16)]
  else [character]

/-- A quoted text. -/
def quote (text : String) : List Char :=
  '"' :: (text.toList.flatMap escape ++ ['"'])

mutual

/-- The compact text of a value. -/
def write : Value → List Char
  | .null => ['n', 'u', 'l', 'l']
  | .bool true => ['t', 'r', 'u', 'e']
  | .bool false => ['f', 'a', 'l', 's', 'e']
  | .number value => value.write
  | .text value => quote value
  | .list items => '[' :: (writeItems items ++ [']'])
  | .object fields => '\x7b' :: (writeFields fields ++ ['\x7d'])

/-- Items separated by commas. -/
def writeItems : List Value → List Char
  | [] => []
  | item :: rest => write item ++ (if rest.isEmpty then [] else ',' :: writeItems rest)

/-- Fields separated by commas. -/
def writeFields : List (String × Value) → List Char
  | [] => []
  | (key, value) :: rest =>
      quote key ++ ':' :: (write value ++ (if rest.isEmpty then [] else ',' :: writeFields rest))

end

end RecordQuery.Json

/-- The compact JSON text of a value. -/
def RecordQuery.Value.compact (value : RecordQuery.Value) : String :=
  String.ofList (RecordQuery.Json.write value)
