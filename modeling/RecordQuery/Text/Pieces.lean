/-!
# Pieces of a text

Cutting a text at a separator. Pieces may be empty: a separator at either end,
or two in a row, have an empty piece beside them. Nothing is lost: the pieces
joined by the separator are the text, and no piece holds the separator.
-/

namespace RecordQuery.Text

/-- Cut a text at every separator. The result is never empty: without a
separator it is the text itself. -/
def pieces (separator : Char) : List Char → List (List Char)
  | [] => [[]]
  | character :: rest =>
      if character = separator then [] :: pieces separator rest
      else
        match pieces separator rest with
        | piece :: more => (character :: piece) :: more
        | [] => [[character]]

/-- There is always a first piece. -/
theorem pieces_ne_nil (separator : Char) (text : List Char) : pieces separator text ≠ [] := by
  induction text with
  | nil => simp [pieces]
  | cons character rest ih =>
      rw [pieces]
      split
      · simp
      · split <;> simp

/-- No piece holds the separator. -/
theorem separator_notMem_of_mem_pieces {separator : Char} {text piece : List Char}
    (member : piece ∈ pieces separator text) : separator ∉ piece := by
  induction text generalizing piece with
  | nil => simp_all [pieces]
  | cons character rest ih =>
      rw [pieces] at member
      split at member
      · rcases List.mem_cons.1 member with rfl | later
        · simp
        · exact ih later
      · next apart =>
        split at member
        · next first more found =>
          rcases List.mem_cons.1 member with rfl | later
          · have kept : separator ∉ first := ih (by simp [found])
            simp [kept, Ne.symm apart]
          · exact ih (by simp [found, later])
        · exact absurd ‹pieces separator rest = []› (pieces_ne_nil separator rest)

end RecordQuery.Text
