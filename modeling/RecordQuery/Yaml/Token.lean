import RecordQuery.Yaml.Scalar

/-!
# YAML tokens

A text as a list of tokens. Indentation becomes tokens too: a block collection
has one where it starts and one where it ends. That a scalar or collection is a
key is known only at the colon behind it, so places where a key may have started
are remembered, and its token is put in afterwards.
-/

namespace RecordQuery.Yaml

/-- A token. Block collections are bounded by indentation, flow collections by
brackets. -/
inductive Token where
  | documentStart
  | documentEnd
  | blockSequenceStart
  | blockMappingStart
  | blockEnd
  | flowSequenceStart
  | flowSequenceEnd
  | flowMappingStart
  | flowMappingEnd
  | flowEntry
  | blockEntry
  | key
  | value
  | scalar (text : String)
  deriving DecidableEq

/-- A place where a key may have started, and the number of tokens before it. It
is required where nothing but a key can stand. -/
structure PossibleKey where
  place : Place
  position : Nat
  required : Bool

/-- How far a text has been read: the tokens so far, the last one first, the
columns of the open block collections, the innermost first, and the places where
a key may have started, one for each open flow collection and one outside. -/
structure Scan where
  cursor : Cursor
  tokens : List Token := []
  indents : List Nat := []
  possible : Option PossibleKey := none
  outer : List (Option PossibleKey) := []
  keyAllowed : Bool := true

namespace Scan

/-- Whether a flow collection is open. -/
def inFlow (scan : Scan) : Bool := !scan.outer.isEmpty

/-- Add a token. -/
def add (scan : Scan) (token : Token) : Scan := { scan with tokens := token :: scan.tokens }

/-- Put in a token that has the given number of tokens before it. -/
def putIn (scan : Scan) (position : Nat) (token : Token) : Scan :=
  let newer := scan.tokens.length - position
  { scan with tokens := scan.tokens.take newer ++ token :: scan.tokens.drop newer }

/-- Read on past some characters. -/
def skip (scan : Scan) (count : Nat) : Scan := { scan with cursor := scan.cursor.skip count }

/-- Allow or forbid a key to start here. -/
def allowKey (scan : Scan) (allowed : Bool) : Scan := { scan with keyAllowed := allowed }

/-- Open a block collection at a column further in than the innermost one. Inside
flow collections columns mean nothing. -/
def openBlock (scan : Scan) (column position : Nat) (token : Token) : Scan :=
  if scan.inFlow || !scan.indents.head?.all (· < column) then scan
  else { scan.putIn position token with indents := column :: scan.indents }

/-- Open a block collection here. -/
def openHere (scan : Scan) (token : Token) : Scan :=
  scan.openBlock scan.cursor.place.column scan.tokens.length token

/-- Close block collections, the innermost first, as long as their columns are
to be left. -/
def closeBlocks (leaves : Nat → Bool) (scan : Scan) : Scan :=
  if scan.inFlow then scan
  else
    let closed := scan.indents.takeWhile leaves
    { scan with
      tokens := closed.map (fun _ => Token.blockEnd) ++ scan.tokens
      indents := scan.indents.drop closed.length }

/-- Give up the place where a key may have started. -/
def dropKey? (scan : Scan) : Option Scan :=
  if scan.possible.any (·.required) then none else some { scan with possible := none }

/-- Remember that a key may start here. -/
def markKey? (scan : Scan) : Option Scan :=
  if scan.keyAllowed then
    scan.dropKey?.map fun scan =>
      { scan with possible := some {
          place := scan.cursor.place
          position := scan.tokens.length
          required := !scan.inFlow && scan.indents.head? == some scan.cursor.place.column } }
  else some scan

/-- The longest way from the start of a key to its colon, in bytes. -/
def keyReach : Nat := 1024

/-- A possible key as it is seen from a place. A key reaches its colon on the same
line and within `keyReach` bytes. -/
def reaching? (place : Place) : Option PossibleKey → Option (Option PossibleKey)
  | none => some none
  | some key =>
      if key.place.line < place.line ∨ key.place.offset + keyReach < place.offset then
        if key.required then none else some none
      else some (some key)

/-- Go to the next token: pass over what separates tokens, forget the keys that
can no longer be reached, and close the block collections that the column
leaves. -/
def approach? (scan : Scan) : Option Scan := do
  let (keyAllowed, cursor) :=
    passBlanks scan.inFlow scan.keyAllowed false scan.cursor.place scan.cursor.rest
  let possible ← reaching? cursor.place scan.possible
  let outer ← scan.outer.mapM (reaching? cursor.place)
  return closeBlocks (cursor.place.column < ·) { scan with cursor, keyAllowed, possible, outer }

/-- A document marker. It ends all block collections. -/
def readMarker? (token : Token) (scan : Scan) : Option Scan :=
  (closeBlocks (fun _ => true) scan).dropKey?.map fun scan =>
    ((scan.allowKey false).add token).skip 3

/-- The start of a flow collection, which may itself be a key. -/
def openFlow? (token : Token) (scan : Scan) : Option Scan :=
  scan.markKey?.map fun scan =>
    let inside := { scan with possible := none, outer := scan.possible :: scan.outer }
    ((inside.allowKey true).add token).skip 1

/-- The end of a flow collection. -/
def closeFlow? (token : Token) (scan : Scan) : Option Scan :=
  scan.dropKey?.map fun scan =>
    let outside := { scan with possible := scan.outer.head?.join, outer := scan.outer.drop 1 }
    ((outside.allowKey false).add token).skip 1

/-- The end of an entry of a flow collection. -/
def readFlowEntry? (scan : Scan) : Option Scan :=
  scan.dropKey?.map fun scan => ((scan.allowKey true).add .flowEntry).skip 1

/-- The start of an entry of a block sequence. -/
def readBlockEntry? (scan : Scan) : Option Scan :=
  if !scan.inFlow && !scan.keyAllowed then none
  else
    (scan.openHere .blockSequenceStart).dropKey?.map fun scan =>
      ((scan.allowKey true).add .blockEntry).skip 1

/-- A key that is marked as such. -/
def readKey? (scan : Scan) : Option Scan :=
  if !scan.inFlow && !scan.keyAllowed then none
  else
    (scan.openHere .blockMappingStart).dropKey?.map fun scan =>
      ((scan.allowKey !scan.inFlow).add .key).skip 1

/-- The colon before a value. What may have been a key is one, and in block
context its column is that of its mapping. -/
def readValue? (scan : Scan) : Option Scan :=
  match scan.possible with
  | some key =>
      let keyed := (scan.putIn key.position .key).openBlock key.place.column key.position
        .blockMappingStart
      some ((({ keyed with possible := none }.allowKey false).add .value).skip 1)
  | none =>
      if !scan.inFlow && !scan.keyAllowed then none
      else
        let opened := scan.openHere .blockMappingStart
        some (((opened.allowKey !scan.inFlow).add .value).skip 1)

/-- A quoted scalar. -/
def readQuotedScalar? (quote : Quote) (scan : Scan) : Option Scan := do
  let scan ← scan.markKey?
  let opened := scan.cursor.next
  let (text, cursor) ← readQuoted? quote (opened.rest.length + 1) .empty opened
  return { (scan.allowKey false).add (.scalar (String.ofList text)) with cursor }

/-- A plain scalar. Its margin is right of the innermost block collection. A line
break behind it lets a key start. -/
def readPlainScalar? (scan : Scan) : Option Scan := do
  let scan ← scan.markKey?
  let margin := scan.indents.head?.elim 0 (· + 1)
  let (text, gap, cursor) ←
    readPlain? scan.inFlow margin (scan.cursor.rest.length + 1) .empty scan.cursor
  return { (scan.allowKey gap.isBroken).add (.scalar (String.ofList text)) with cursor }

/-- Read the token that starts here with a character and the text after it. -/
def readToken? (scan : Scan) (character : Char) (rest : List Char) : Option Scan :=
  let indicates := scan.inFlow || standsAlone rest
  if scan.cursor.hasMarks '-' then scan.readMarker? .documentStart
  else if scan.cursor.hasMarks '.' then scan.readMarker? .documentEnd
  else if character = '[' then scan.openFlow? .flowSequenceStart
  else if character = '\x7b' then scan.openFlow? .flowMappingStart
  else if character = ']' then scan.closeFlow? .flowSequenceEnd
  else if character = '\x7d' then scan.closeFlow? .flowMappingEnd
  else if character = ',' then scan.readFlowEntry?
  else if character = '-' && standsAlone rest then scan.readBlockEntry?
  else if character = '?' && indicates then scan.readKey?
  else if character = ':' && indicates then scan.readValue?
  else if character = '\'' then scan.readQuotedScalar? .single
  else if character = '"' then scan.readQuotedScalar? .double
  else if startsPlain scan.inFlow (character :: rest) then scan.readPlainScalar?
  else none

/-- All tokens, in at most `steps` steps. At the end of the text all block
collections end. -/
def run? : (steps : Nat) → Scan → Option (List Token)
  | 0, _ => none
  | steps + 1, scan => do
      let scan ← scan.approach?
      match scan.cursor.rest with
      | [] => (closeBlocks (fun _ => true) scan).dropKey?.map (·.tokens.reverse)
      | character :: rest => run? steps (← scan.readToken? character rest)

end Scan

/-- The tokens of a text. -/
def Token.ofText? (text : List Char) : Option (List Token) :=
  if text.all isAllowed then Scan.run? (text.length + 1) { cursor := .start text } else none

end RecordQuery.Yaml
