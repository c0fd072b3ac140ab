import RecordQuery.Text.Pieces

/-!
# Words of declarations

Which names an argument of an attribute may have: a word that is not reserved, or
several of them as a path, divided by `::`.
-/

namespace RecordQuery.Declaration

/-- The reserved words, which have a meaning of their own in declarations or are
kept for one. A reserved word is no name, see `isSegment` for the exceptions. -/
def reservedWords : List String := [
  "_", "abstract", "as", "async", "await", "become", "box", "break", "const", "continue", "crate",
  "do", "dyn", "else", "enum", "extern", "false", "final", "fn", "for", "if", "impl", "in", "let",
  "loop", "macro", "match", "mod", "move", "mut", "override", "priv", "pub", "ref", "return",
  "Self", "self", "static", "struct", "super", "trait", "true", "try", "type", "typeof", "unsafe",
  "unsized", "use", "virtual", "where", "while", "yield"]

/-- The reserved words that stand for places, and so may be part of a path. -/
def placeWords : List String := ["crate", "self", "Self", "super"]

/-- Letters, digits and underscores with no digit first. Beyond ASCII every
character counts as a letter. -/
def isWord : List Char → Bool
  | [] => false
  | first :: rest =>
      !first.isDigit && (first :: rest).all fun character =>
        character.isAlphanum || character = '_' || 0x80 ≤ character.toNat

/-- A part of a path: a word that is not reserved, or one that stands for a place.
Behind the mark `r#` reserved words are names as well, except for those of places. -/
def isSegment : List Char → Bool
  | 'r' :: '#' :: marked => isWord marked && !("_" :: placeWords).contains (String.ofList marked)
  | plain =>
      let word := String.ofList plain
      isWord plain && (placeWords.contains word || !reservedWords.contains word)

/-- Whether the pieces between colons are the parts of a path, with nothing inside
each pair of colons. -/
def isPath : List (List Char) → Bool
  | [segment] => isSegment segment
  | segment :: [] :: rest => isSegment segment && isPath rest
  | _ => false

/-- Whether an argument may have a name. A path may start with a divider, and one
reserved word is a name of its own. -/
def isArgumentName (name : String) : Bool :=
  name == "unsafe" ||
    match Text.pieces ':' name.toList with
    | [] :: [] :: rest => isPath rest
    | pieces => isPath pieces

end RecordQuery.Declaration
