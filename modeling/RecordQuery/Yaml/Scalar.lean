import RecordQuery.Text.Hexadecimal
import RecordQuery.Yaml.Cursor

/-!
# YAML scalars

Plain, single-quoted and double-quoted scalars. All three may run over several
lines. What lies between two visible characters is then folded: blanks around a
line break vanish, a single break becomes a space, and of several breaks the
first one vanishes.
-/

namespace RecordQuery.Yaml

/-- What has been passed since the last visible character: blanks, or breaks with
the blanks around them dropped. Breaks without a first one follow a break that
was escaped. -/
inductive Gap where
  | blanks (passed : List Char)
  | breaks (first : Option Char) (later : List Char)

namespace Gap

/-- Nothing passed. -/
def empty : Gap := .blanks []

/-- Nothing has been passed. -/
def isEmpty : Gap → Bool
  | .blanks passed => passed.isEmpty
  | .breaks _ _ => false

/-- A line break has been passed. -/
def isBroken : Gap → Bool
  | .blanks _ => false
  | .breaks _ _ => true

/-- Pass one more blank or break. -/
def pass (character : Char) : Gap → Gap
  | .blanks passed =>
      if isBreak character then .breaks (some character) [] else .blanks (passed ++ [character])
  | .breaks first later =>
      if isBreak character then .breaks first (later ++ [character]) else .breaks first later

/-- The characters that a gap leaves in a scalar. The separators of Unicode are
breaks that stay. -/
def text : Gap → List Char
  | .blanks passed => passed
  | .breaks none later => later
  | .breaks (some '\n') [] => [' ']
  | .breaks (some '\n') later => later
  | .breaks (some first) later => first :: later

end Gap

/-- A character given by a number of hexadecimal digits. Halves of a pair of units
and numbers beyond the last character stand for nothing. -/
def readPoint? (digits : Nat) (text : List Char) : Option Char := do
  let (point, _) ← Text.readHex? digits text
  if (0xD800 ≤ point ∧ point < 0xE000) ∨ 0x110000 ≤ point then none else some (Char.ofNat point)

/-- The escapes of one character, and the code points that they stand for. -/
def shortEscapes : List (Char × Nat) :=
  [('0', 0), ('a', 7), ('b', 8), ('t', 9), ('\t', 9), ('n', 10), ('v', 11), ('f', 12), ('r', 13),
    ('e', 27), (' ', 32), ('"', 34), ('/', 47), ('\\', 92), ('N', 0x85), ('_', 0xA0),
    ('L', 0x2028), ('P', 0x2029)]

/-- The character of an escape, from the text after its backslash, and the number
of characters that the escape takes there. -/
def readEscape? : List Char → Option (Char × Nat)
  | [] => none
  | 'x' :: rest => (readPoint? 2 rest).map (·, 3)
  | 'u' :: rest => (readPoint? 4 rest).map (·, 5)
  | 'U' :: rest => (readPoint? 8 rest).map (·, 9)
  | mark :: _ => (shortEscapes.lookup mark).map fun point => (Char.ofNat point, 1)

/-- The two kinds of quote. -/
inductive Quote where
  | single
  | double
  deriving DecidableEq

/-- A quoted scalar after its opening quote, in at most `steps` steps. A document
marker ends no scalar, so none may stand inside. -/
def readQuoted? (quote : Quote) : (steps : Nat) → Gap → Cursor → Option (List Char × Cursor)
  | 0, _, _ => none
  | steps + 1, gap, cursor =>
      let goOn (written : List Char) (taken : Nat) (after : Gap) :=
        (readQuoted? quote steps after (cursor.skip taken)).map fun (more, final) =>
          (gap.text ++ written ++ more, final)
      match quote, cursor.rest with
      | _, [] => none
      | quote, character :: rest =>
          if isBlank character || isBreak character then
            readQuoted? quote steps (gap.pass character) cursor.next
          else if cursor.atMarker then none
          else
            match quote, character, rest with
            | .single, '\'', '\'' :: _ => goOn ['\''] 2 .empty
            | .single, '\'', _ => some (gap.text, cursor.next)
            | .double, '"', _ => some (gap.text, cursor.next)
            | .double, '\\', rest =>
                if rest.head?.any isBreak then goOn [] 2 (.breaks none [])
                else
                  match readEscape? rest with
                  | some (escaped, length) => goOn [escaped] (length + 1) .empty
                  | none => none
            | _, character, _ => goOn [character] 1 .empty

/-- The characters that structure flow collections. -/
def isFlowIndicator (character : Char) : Bool :=
  character = ',' || character = '[' || character = ']' ||
    character = '\x7b' || character = '\x7d'

/-- The characters that mean something else at the start of a token. -/
def indicators : List Char := ['#', '&', '*', '!', '|', '>', '\'', '"', '%', '@', '\x60']

/-- Whether a plain scalar may start with this text. -/
def startsPlain (inFlow : Bool) : List Char → Bool
  | [] => false
  | first :: rest =>
      if first = '-' then !standsAlone rest
      else if first = '?' || first = ':' then !inFlow && !standsAlone rest
      else
        !isBlank first && !isBreak first && !isFlowIndicator first && !indicators.contains first

/-- A plain scalar, in at most `steps` steps, with the gap behind it. It ends at a
colon that stands alone, and in flow collections at their structure. After a gap
it also ends at a comment, at a document marker and, outside flow collections,
left of its margin. A tab may not stand in for the margin, and in flow
collections a colon may not stand before their structure. -/
def readPlain? (inFlow : Bool) (margin : Nat) :
    (steps : Nat) → Gap → Cursor → Option (List Char × Gap × Cursor)
  | 0, _, _ => none
  | steps + 1, gap, cursor =>
      match cursor.rest with
      | [] => some ([], gap, cursor)
      | character :: rest =>
          let outside := cursor.place.column < margin
          let endsKey := character = ':' && standsAlone rest
          if isBlank character || isBreak character then
            if character = '\t' && gap.isBroken && outside then none
            else readPlain? inFlow margin steps (gap.pass character) cursor.next
          else if !gap.isEmpty && ((!inFlow && outside) || cursor.atMarker || character = '#') then
            some ([], gap, cursor)
          else if inFlow && character = ':' &&
              rest.head?.any (fun next => next = '?' || isFlowIndicator next) then none
          else if endsKey || (inFlow && isFlowIndicator character) then
            some ([], gap, cursor)
          else
            (readPlain? inFlow margin steps .empty cursor.next).map fun (more, final) =>
              (gap.text ++ character :: more, final)

end RecordQuery.Yaml
