import Mathlib.Data.List.Forall2
import RecordQuery.Proofs.AdapterCalls
import RecordQuery.Proofs.Keyed
import RecordQuery.Proofs.PathText
import RecordQuery.Validation

/-!
# Cutting rows to selected names

A selected name is a path, and checking a selection looks at the first segment of
each path. Projection looks at what stands before the first dot instead. That is the
first segment, unless nothing stands there: a name that is empty or starts with a dot
selects the field with the empty name, whatever its first segment is.
-/

namespace RecordQuery

/-! ## Openings -/

/-- The first piece goes up to the first separator. -/
theorem Text.head?_pieces (separator : Char) (text : List Char) :
    (pieces separator text).head? = some (text.takeWhile (· != separator)) := by
  induction text with
  | nil => rfl
  | cons character rest ih =>
      rw [pieces]
      split
      case isTrue same => simp [same]
      case isFalse apart =>
        cases cut : pieces separator rest with
        | nil => exact absurd cut (pieces_ne_nil separator rest)
        | cons piece more =>
            rw [cut] at ih
            simpa [apart] using ih

namespace Path

/-- What stands before the first dot of a name. -/
def opening (name : String) : String := .ofList (name.toList.takeWhile (· != '.'))

variable {name key : String}

/-- A name opens with its first segment, unless it is empty or starts with a dot. -/
theorem root?_parse_of_opening (opened : opening name ≠ "") :
    (parse name).root? = some (opening name) := by
  have first := Text.head?_pieces '.' name.toList
  cases cut : Text.pieces '.' name.toList with
  | nil => exact absurd cut (Text.pieces_ne_nil '.' name.toList)
  | cons piece more =>
      rw [cut, List.head?_cons, Option.some.injEq] at first
      have kept : ¬piece.isEmpty := by
        rintro none
        apply opened
        rw [opening, ← first, List.isEmpty_iff.1 none]
      simp [parse, root?, cut, kept, opening, ← first]

theorem ne_empty_of_root?_parse (root : (parse name).root? = some key) : key ≠ "" :=
  (plain_parse name key (List.mem_of_head? root)).1

end Path

/-! ## Rows -/

namespace Record

variable {settings : Settings} {select : List String} {row : Record}

/-- A row cut to the id and the first segments of the selected names. An empty
selection keeps everything. -/
def restricted (settings : Settings) (select : List String) (row : Record) : Record :=
  if select.isEmpty then row
  else
    row.filter fun (key, _) =>
      key == settings.idField || select.any fun name => (Path.parse name).root? == some key

/-- No name without an opening misleads projection about a row: the row has no field
with the empty name, and where it has the field that the name is meant to select,
another name opens with it. The id is kept in any case. -/
def WellSelected (settings : Settings) (select : List String) (row : Record) : Prop :=
  ∀ name ∈ select, Path.opening name = "" → ∀ key ∈ row.keys, key ≠ settings.idField →
    key ≠ "" ∧
      ((Path.parse name).root? = some key → ∃ other ∈ select, Path.opening other = key)

instance (settings : Settings) (select : List String) (row : Record) :
    Decidable (WellSelected settings select row) :=
  inferInstanceAs (Decidable (∀ name ∈ select, Path.opening name = "" → ∀ key ∈ row.keys,
    key ≠ settings.idField → key ≠ "" ∧ ((Path.parse name).root? = some key →
      ∃ other ∈ select, Path.opening other = key)))

/-- The two ways to cut a row agree when they agree on each of its fields. -/
theorem project_eq_restricted_iff_of_filled (filled : select ≠ []) :
    project settings select row = restricted settings select row ↔
      ∀ key ∈ row.keys, key ≠ settings.idField →
        ((∃ name ∈ select, Path.opening name = key) ↔
          ∃ name ∈ select, (Path.parse name).root? = some key) := by
  have projected : project settings select row =
      row.filter fun entry => entry.1 == settings.idField ||
        select.any fun name => Path.opening name == entry.1 := by
    simp [project, filled, Text.head?_pieces, Path.opening, ← String.toList_inj,
      Bool.beq_eq_decide_eq]
  have cut : restricted settings select row =
      row.filter fun entry => entry.1 == settings.idField ||
        select.any fun name => (Path.parse name).root? == some entry.1 := by
    simp [restricted, filled]
  rw [projected, cut, Keyed.filter_eq_filter_iff
    (fun key => key == settings.idField || select.any fun name => Path.opening name == key)
    (fun key => key == settings.idField ||
      select.any fun name => (Path.parse name).root? == some key)]
  apply forall₂_congr
  intro key _
  by_cases same : key = settings.idField
  · simp [same]
  · rw [Bool.eq_iff_iff]
    simp [same]

/-- Where nothing misleads it, projection keeps what the paths select. -/
theorem project_eq_restricted_iff :
    project settings select row = restricted settings select row ↔
      WellSelected settings select row := by
  by_cases filled : select = []
  · subst filled
    exact iff_of_true rfl (List.forall_mem_nil _)
  rw [project_eq_restricted_iff_of_filled filled]
  constructor
  · intro agree name member unopened key held apart
    have opens : (Path.parse name).root? = some key → ∃ other ∈ select, Path.opening other = key :=
      fun root => (agree key held apart).2 ⟨name, member, root⟩
    refine ⟨?_, opens⟩
    rintro rfl
    obtain ⟨other, _, root⟩ := (agree "" held apart).1 ⟨name, member, unopened⟩
    exact Path.ne_empty_of_root?_parse root rfl
  · intro selected key held apart
    constructor
    · rintro ⟨name, member, opens⟩
      refine ⟨name, member, ?_⟩
      rw [← opens]
      apply Path.root?_parse_of_opening
      intro unopened
      exact (selected name member unopened key held apart).1 (opens ▸ unopened)
    · rintro ⟨name, member, root⟩
      by_cases unopened : Path.opening name = ""
      · exact (selected name member unopened key held apart).2 root
      · have opens := (Path.root?_parse_of_opening unopened).symm.trans root
        exact ⟨name, member, Option.some.inj opens⟩

end Record

/-! ## Answers -/

/-- The first segment of each selected name of a sound query is a known field. -/
theorem QuerySpec.knows_of_mem_select {spec : QuerySpec} {declared : List String}
    {settings : Settings} (sound : spec.problem? declared settings = none) {name root : String}
    (member : name ∈ spec.select) (first : (Path.parse name).root? = some root) :
    FieldRules.knows ⟨spec.entity, declared, settings⟩ root := by
  simp only [problem?, Option.or_eq_none_iff] at sound
  have unproblematic := List.findSome?_eq_none_iff.1 sound.2.2 name member
  simp only [FieldRules.pathProblem?, first] at unproblematic
  by_contra unknown
  simp [unknown] at unproblematic

/-- What a memory adapter answers to a sound query. The first segments of the selected
names are known fields, and each row is cut to them and the id exactly if no name
without an opening misleads projection about it. -/
theorem Adapter.query_restricts_iff (adapter : Adapter) (spec : QuerySpec) (supply : Supply)
    (declared : List String) (settings : Settings) (memory : adapter.kind = .memory)
    (sound : spec.problem? declared settings = none) :
    let store := adapter.store
    let rows := spec.window.apply
      (sortRows store.sorter spec.order (store.matching spec.entity spec.filters))
    (∀ name ∈ spec.select, ∀ root, (Path.parse name).root? = some root →
      FieldRules.knows ⟨spec.entity, declared, settings⟩ root) ∧
    ∃ result, Adapter.query spec adapter supply = (.ok result, adapter, supply) ∧
      List.Forall₂ (fun row answer =>
        answer = Record.restricted store.settings spec.select row ↔
          Record.WellSelected store.settings spec.select row) rows result.data := by
  intro store rows
  refine ⟨fun name member root => QuerySpec.knows_of_mem_select sound member, store.query spec,
    Adapter.query_of_memory memory spec supply, ?_⟩
  exact List.forall₂_map_right_iff.2
    (List.forall₂_same.2 fun _ _ => Record.project_eq_restricted_iff)

/-- A name that starts with a dot does no harm where another name opens with its first
segment. -/
theorem Adapter.query_restricts_twiceNamed :
    let supply : Supply := ⟨fun _ => "u", fun _ => "t", 0, 0⟩
    let row : Record := [("id", .text "1"), ("title", .text "a"), ("n", .number (.int 1))]
    let adapter : Adapter := { store := { tables := [("Doc", [("1", row)])] } }
    let spec : QuerySpec := { entity := "Doc", select := [".title", "title.short"] }
    (adapter.kind = .memory ∧ spec.problem? ["title"] {} = none) ∧
      ∃ result, Adapter.query spec adapter supply = (.ok result, adapter, supply) ∧
        result.data = [[("id", .text "1"), ("title", .text "a")]] := by
  intro supply row adapter spec
  have sound : spec.problem? ["title"] {} = none := by decide +kernel
  obtain ⟨-, result, answered, restricts⟩ :=
    Adapter.query_restricts_iff adapter spec supply ["title"] {} rfl sound
  have single : spec.window.apply
      (sortRows adapter.store.sorter spec.order
        (adapter.store.matching spec.entity spec.filters)) = [row] := rfl
  have wellSelected : Record.WellSelected adapter.store.settings spec.select row := by
    decide +kernel
  have cut : Record.restricted adapter.store.settings spec.select row =
      [("id", .text "1"), ("title", .text "a")] := by decide +kernel
  rw [single] at restricts
  cases data : result.data with
  | nil =>
      rw [data] at restricts
      cases restricts
  | cons answer more =>
      rw [data] at restricts
      obtain ⟨restricted, rest⟩ := List.forall₂_cons.1 restricts
      cases rest
      refine ⟨⟨rfl, sound⟩, result, answered, ?_⟩
      rw [data, restricted.2 wellSelected, cut]

/-- The name `.title` is checked as the field `title`, which the entity declares, but
the answer lacks that field. -/
theorem Adapter.not_query_restricts :
    let supply : Supply := ⟨fun _ => "u", fun _ => "t", 0, 0⟩
    let row : Record := [("id", .text "1"), ("title", .text "a")]
    let adapter : Adapter := { store := { tables := [("Doc", [("1", row)])] } }
    let spec : QuerySpec := { entity := "Doc", select := [".title"] }
    spec.problem? ["title"] adapter.store.settings = none ∧
      ∃ result, Adapter.query spec adapter supply = (.ok result, adapter, supply) ∧
        ¬result.data = [Record.restricted adapter.store.settings spec.select row] := by
  intro supply row adapter spec
  exact ⟨by decide +kernel, adapter.store.query spec, Adapter.query_of_memory rfl spec supply,
    by decide +kernel⟩

end RecordQuery
