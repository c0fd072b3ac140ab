/-!
# Places in YAML text

What kinds of character there are, and how reading moves through a text while it
keeps track of lines and columns. Indentation and the reach of keys are told by
places, so they are part of what is read.
-/

namespace RecordQuery.Yaml

/-- A space or a tab. -/
def isBlank (character : Char) : Bool := character = ' ' || character = '\t'

/-- A line break. The usual ones are written as a line feed, see `lineFeeds`. -/
def isBreak (character : Char) : Bool :=
  character = '\n' || character = '\u2028' || character = '\u2029'

/-- A text in which carriage returns, alone or before a line feed, and next-line
characters are line feeds. The two separators of Unicode stay as they are. -/
def lineFeeds : List Char → List Char
  | [] => []
  | '\r' :: '\n' :: rest => '\n' :: lineFeeds rest
  | character :: rest =>
      (if character = '\r' || character = '\u0085' then '\n' else character) :: lineFeeds rest

/-- The characters that may stand in a text. -/
def isAllowed (character : Char) : Bool :=
  let point := character.toNat
  isBlank character || isBreak character || (0x20 ≤ point && point ≤ 0x7E) ||
    (0xA0 ≤ point && point ≤ 0xFFFD) || 0x10000 ≤ point

/-- Whether an indicator before this text stands by itself. -/
def standsAlone : List Char → Bool
  | [] => true
  | next :: _ => isBlank next || isBreak next

/-- A line, a column in it in characters, and the number of bytes before that in
the UTF-8 form of the text. -/
structure Place where
  line : Nat := 0
  column : Nat := 0
  offset : Nat := 0

/-- The place after a character. -/
def Place.after (place : Place) (character : Char) : Place :=
  let offset := place.offset + character.utf8Size
  if isBreak character then ⟨place.line + 1, 0, offset⟩
  else ⟨place.line, place.column + 1, offset⟩

/-- The rest of a text with its place. -/
structure Cursor where
  place : Place
  rest : List Char

namespace Cursor

/-- The start of a text. -/
def start (text : List Char) : Cursor := ⟨{}, text⟩

/-- One character further. -/
def next : Cursor → Cursor
  | ⟨place, []⟩ => ⟨place, []⟩
  | ⟨place, character :: rest⟩ => ⟨place.after character, rest⟩

/-- Some characters further. -/
def skip (cursor : Cursor) : (count : Nat) → Cursor
  | 0 => cursor
  | count + 1 => cursor.next.skip count

/-- Whether three marks of one kind stand here by themselves. -/
def hasMarks (mark : Char) (cursor : Cursor) : Bool :=
  cursor.place.column == 0 && cursor.rest.take 3 == [mark, mark, mark] &&
    standsAlone (cursor.rest.drop 3)

/-- Whether the marker before or behind a document stands here. -/
def atMarker (cursor : Cursor) : Bool := cursor.hasMarks '-' || cursor.hasMarks '.'

end Cursor

/-- Pass over blanks, comments and line breaks. A tab counts as a blank inside
flow collections, and elsewhere only where no key may start. A new line outside
them lets a key start. The answer says whether a key may start, and where the
next token is. -/
def passBlanks (inFlow keyAllowed inComment : Bool) (place : Place) : List Char → Bool × Cursor
  | [] => (keyAllowed, ⟨place, []⟩)
  | character :: rest =>
      let isPassed := inComment || character = ' ' ||
        (character = '\t' && (inFlow || !keyAllowed)) ||
        (character = '\uFEFF' && place.column = 0)
      if isBreak character then
        passBlanks inFlow (keyAllowed || !inFlow) false (place.after character) rest
      else if isPassed then passBlanks inFlow keyAllowed inComment (place.after character) rest
      else if character = '#' then passBlanks inFlow keyAllowed true (place.after character) rest
      else (keyAllowed, ⟨place, character :: rest⟩)

end RecordQuery.Yaml
