import RecordQuery.Builder.Filters

/-!
# Paths as texts

A text names a path whose segments are the non-empty texts between its dots. Such a
path is read back from the text that displays it, and every path that is read is of
this kind. Texts with a dot between them name the joined path, so a list with a path
into its elements is one path, however a filter is given it.
-/

namespace RecordQuery

namespace Text

variable {separator : Char} {text : List Char}

theorem pieces_of_notMem (absent : separator ∉ text) : pieces separator text = [text] := by
  induction text with
  | nil => rfl
  | cons character rest ih =>
      obtain ⟨apart, absentRest⟩ := not_or.1 (mt List.mem_cons.2 absent)
      rw [pieces, if_neg (Ne.symm apart), ih absentRest]

/-- A separator cuts a text in two. -/
theorem pieces_append_separator (separator : Char) (left right : List Char) :
    pieces separator (left ++ separator :: right) =
      pieces separator left ++ pieces separator right := by
  induction left with
  | nil => simp [pieces]
  | cons character rest ih =>
      rw [List.cons_append, pieces, pieces]
      split
      · rw [ih, List.cons_append]
      · rw [ih]
        cases first : pieces separator rest with
        | nil => exact absurd first (pieces_ne_nil separator rest)
        | cons piece more => rfl

end Text

namespace Path

/-- A name without dots is a path of one segment. -/
theorem parse_of_notMem {name : String} (nonempty : name ≠ "") (dotless : '.' ∉ name.toList) :
    parse name = ⟨[name]⟩ := by
  have piece : ¬name.toList.isEmpty := by simpa using nonempty
  simp [parse, Text.pieces_of_notMem dotless, piece]

/-- Paths that a text can name: no segment is empty or has a dot. -/
def Plain (path : Path) : Prop :=
  ∀ segment ∈ path.segments, segment ≠ "" ∧ '.' ∉ segment.toList

/-- A dot joins what stands before and after it. -/
theorem parse_dot (left right : String) :
    parse (left ++ "." ++ right) = (parse left).join (parse right) := by
  simp [parse, join, Text.pieces_append_separator]

theorem plain_parse (text : String) : (parse text).Plain := by
  intro segment member
  obtain ⟨piece, kept, rfl⟩ := List.mem_map.1 member
  obtain ⟨found, nonempty⟩ := List.mem_filter.1 kept
  have dotless := Text.separator_notMem_of_mem_pieces found
  constructor
  · simpa using nonempty
  · rwa [String.toList_ofList]

theorem parse_display {path : Path} (plain : path.Plain) : parse path.display = path := by
  obtain ⟨segments⟩ := path
  induction segments with
  | nil => rfl
  | cons first rest ih =>
      obtain ⟨⟨nonempty, dotless⟩, plainRest⟩ := List.forall_mem_cons.1 plain
      have alone := parse_of_notMem nonempty dotless
      cases rest with
      | nil => simpa [display] using alone
      | cons second more =>
          have split : display ⟨first :: second :: more⟩ =
              first ++ "." ++ display ⟨second :: more⟩ := String.intercalate_cons_cons
          rw [split, parse_dot, alone, ih plainRest]
          rfl

/-- The paths that are read back are those that texts can name. -/
theorem parse_display_iff {path : Path} : parse path.display = path ↔ path.Plain := by
  constructor
  · intro same
    rw [← same]
    exact plain_parse path.display
  · exact parse_display

/-- Texts and segments correspond. A dot between two texts joins the paths that they name, and
a filter for every element of a list is about the same path as one for a place behind the
dotted text. A text names a path of non-empty segments without dots, all such paths and no
others are read back as displayed, and so displaying what a text names keeps the path,
whatever dots the text has too many. -/
theorem text_corresponds (text other : String) (set : FilterSet) (operator : Operator)
    (value : Value) :
    parse (text ++ "." ++ other) = (parse text).join (parse other) ∧
      (∃ path : Path,
        set.whereAll (parse text) (parse other) operator value =
            set.push (.condition ⟨path, operator, value, some .all⟩) ∧
          set.whereNested (parse (text ++ "." ++ other)) operator value =
            set.push (.condition ⟨path, operator, value, some .any⟩)) ∧
      (∀ segment ∈ (parse text).segments, segment ≠ "" ∧ '.' ∉ segment.toList) ∧
      (∀ path : Path, parse path.display = path ↔
        ∀ segment ∈ path.segments, segment ≠ "" ∧ '.' ∉ segment.toList) ∧
      parse (parse text).display = parse text := by
  have joined := parse_dot text other
  refine ⟨joined, ⟨(parse text).join (parse other), rfl, ?nested⟩, plain_parse text,
    fun path => parse_display_iff, parse_display (plain_parse text)⟩
  case nested => rw [joined, FilterSet.whereNested]

/-- Dots at the ends and dots in a row are passed over. -/
example : parse "..items..unitPrice." = ⟨["items", "unitPrice"]⟩ := by decide +kernel

end Path

end RecordQuery
