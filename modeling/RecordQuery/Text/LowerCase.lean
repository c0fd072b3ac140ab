import RecordQuery.Text.CaseTable

/-!
# Lower-casing text

Characters are lowered one by one, with two exceptions: the dotted capital I
becomes two characters, and a capital sigma becomes a final sigma when it ends
a word.
-/

namespace RecordQuery.Text

/-- The lower-case form of a character on its own. -/
def lowerCharacter (character : Char) : List Char :=
  if character.toNat = 0x130 then ['i', Char.ofNat 0x307]
  else
    match lowerRuns.find? (·.covers character.toNat) with
    | some run => [Char.ofNat (character.toNat + run.shift).toNat]
    | none => [character]

/-- Whether the first character that is not transparent is a letter with case. -/
def startsCased (text : List Char) : Bool :=
  (text.dropWhile isIgnorable).head?.any isCased

/-- Lower a text whose preceding characters, nearest first, are `before`. A
capital sigma ends a word when a letter with case stands before it and none
after it. -/
def lowerAfter (before : List Char) : List Char → List Char
  | [] => []
  | character :: rest =>
      let lowered :=
        if character = 'Σ' then
          if startsCased before && !startsCased rest then ['ς'] else ['σ']
        else lowerCharacter character
      lowered ++ lowerAfter (character :: before) rest

/-- The lower-case form of a text. -/
def toLower (text : List Char) : List Char := lowerAfter [] text

end RecordQuery.Text
