/-!
# Substrings

Whether one text occurs inside another. The empty text occurs everywhere.
-/

namespace RecordQuery.Text

/-- Whether `pattern` occurs in a text as consecutive characters. -/
def occursIn (pattern : List Char) : List Char → Bool
  | [] => pattern.isEmpty
  | character :: rest => pattern.isPrefixOf (character :: rest) || occursIn pattern rest

/-- Occurring is being an infix. -/
theorem occursIn_iff {pattern text : List Char} :
    occursIn pattern text = true ↔ pattern <:+: text := by
  induction text with
  | nil => simp [occursIn, List.isEmpty_iff]
  | cons character rest ih =>
      simp [occursIn, ih, List.infix_cons_iff]

end RecordQuery.Text
