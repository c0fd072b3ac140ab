import Mathlib.Data.List.Forall2
import Mathlib.Data.List.TakeWhile
import RecordQuery.Proofs.YamlLines
import RecordQuery.Settings.Document

/-!
# What a settings file says

The entries of a settings file describe settings: a name that is given once says its
text, a name that is not given says the usual text, and other names say nothing. Where
the entries describe nothing the file is rejected. Settings that are written line by
line are read back.
-/

namespace RecordQuery

theorem Text.isBlank_of_trim_isEmpty {text : List Char} (empty : (trim text).isEmpty) :
    ∀ character ∈ text, isBlank character := by
  intro character member
  rw [trim, List.isEmpty_reverse, List.isEmpty_iff, List.dropWhile_eq_nil_iff] at empty
  rw [← List.takeWhile_append_dropWhile (p := isBlank) (l := text)] at member
  rcases List.mem_append.1 member with before | behind
  · exact List.mem_takeWhile_imp before
  · exact empty character (List.mem_reverse.2 behind)

theorem IdStrategy.ofName?_eq_some_iff {text : String} {strategy : IdStrategy} :
    ofName? text = some strategy ↔ strategy.name = text := by
  constructor
  · intro named
    rw [ofName?] at named
    have found := List.find?_some named
    exact beq_iff_eq.1 found
  · rintro rfl
    cases strategy <;> decide

namespace Settings

/-- What entries say under a name that need not be given. -/
inductive Gives (entries : List (String × Yaml.Node)) (name usual : String) : String → Prop where
  | given {node : Yaml.Node} {text : String} :
      (entries.filter fun entry => entry.1 == name) = [(name, node)] → node.text? = some text →
        Gives entries name usual text
  | omitted : name ∉ entries.map Prod.fst → Gives entries name usual usual

/-- Entries say of each part of the settings what it is. -/
structure Described (entries : List (String × Yaml.Node)) (settings : Settings) : Prop where
  idField : Gives entries "id_field" "id" settings.idField
  createdAtField : Gives entries "created_at_field" "createdAt" settings.createdAtField
  updatedAtField : Gives entries "updated_at_field" "updatedAt" settings.updatedAtField
  idStrategy : Gives entries "id_strategy" "uuid" settings.idStrategy.name

variable {entries : List (String × Yaml.Node)} {settings : Settings}

theorem textPart?_eq_some_iff {name usual text : String} :
    textPart? entries name usual = some text ↔ Gives entries name usual text := by
  have absent_iff : (entries.filter fun entry => entry.1 == name) = [] ↔
      name ∉ entries.map Prod.fst := by
    simp only [List.filter_eq_nil_iff, beq_iff_eq, List.mem_map]
    constructor
    · rintro none ⟨entry, member, same⟩
      exact none entry member same
    · intro absent entry member same
      exact absent ⟨entry, member, same⟩
  constructor
  · intro read
    simp only [textPart?, entry?] at read
    generalize under_eq : (entries.filter fun entry => entry.1 == name) = under at read
    match under, read with
    | [], read =>
        obtain rfl : usual = text := by simpa using read
        exact .omitted (absent_iff.1 under_eq)
    | [(given, node)], read =>
        have member : (given, node) ∈ entries.filter fun entry => entry.1 == name :=
          under_eq ▸ List.mem_singleton_self _
        obtain rfl : given = name := beq_iff_eq.1 (List.mem_filter.1 member).2
        exact .given under_eq (by simpa using read)
    | _ :: _ :: _, read => cases read
  · intro stated
    cases stated with
    | given only held => simp [textPart?, entry?, only, held]
    | omitted absent => simp [textPart?, entry?, absent_iff.2 absent]

/-- Entries that describe settings are read as these settings, and others as none. -/
theorem ofEntries?_eq_some_iff :
    ofEntries? entries = some settings ↔ Described entries settings := by
  constructor
  · intro read
    simp only [ofEntries?, Option.bind_eq_bind, Option.bind_eq_some_iff, textPart?_eq_some_iff,
      Option.pure_def, Option.some.injEq] at read
    obtain ⟨idField, id, createdAt, created, updatedAt, updated, word, given, strategy, named,
      rfl⟩ := read
    exact ⟨id, created, updated, IdStrategy.ofName?_eq_some_iff.1 named ▸ given⟩
  · rintro ⟨id, created, updated, given⟩
    have word : textPart? entries "id_strategy" IdStrategy.uuid.name = _ :=
      textPart?_eq_some_iff.2 given
    simp [ofEntries?, textPart?_eq_some_iff.2 id, textPart?_eq_some_iff.2 created,
      textPart?_eq_some_iff.2 updated, word, IdStrategy.ofName?_eq_some_iff.2 rfl]

/-- An entry of a mapping under the text of its key, which must be a scalar. -/
def Named (pair : Yaml.Node × Yaml.Node) (entry : String × Yaml.Node) : Prop :=
  pair.1.text? = some entry.1 ∧ pair.2 = entry.2

theorem named_iff {pair : Yaml.Node × Yaml.Node} {entry : String × Yaml.Node} :
    (do return (← pair.1.text?, pair.2)) = some entry ↔ Named pair entry := by
  obtain ⟨name, held⟩ := entry
  simp [Named, Option.bind_eq_some_iff]

theorem mapM_eq_some_iff_forall₂ {α β : Type} {read : α → Option β} {given : List α}
    {values : List β} :
    given.mapM read = some values ↔
      List.Forall₂ (fun item value => read item = some value) given values := by
  induction given generalizing values with
  | nil => simp [eq_comm]
  | cons item given ih =>
      simp only [List.mapM_cons, List.forall₂_cons_left_iff, Option.bind_eq_bind, Option.pure_def,
        Option.bind_eq_some_iff, Option.some.injEq, ih]
      grind

/-- A mapping describes settings if all its keys are scalars and its entries under their
texts describe them. -/
theorem ofNode?_mapping_eq_some_iff {pairs : List (Yaml.Node × Yaml.Node)} :
    ofNode? (.mapping pairs) = some settings ↔
      ∃ entries, List.Forall₂ Named pairs entries ∧ Described entries settings := by
  show Option.bind (List.mapM _ pairs) ofEntries? = _ ↔ _
  simp only [Option.bind_eq_some_iff, mapM_eq_some_iff_forall₂, named_iff, ofEntries?_eq_some_iff]

theorem ofNode?_scalars (lines : List (String × String)) :
    ofNode? (.mapping (lines.map fun (name, text) => (.scalar name, .scalar text))) =
      ofEntries? (lines.map fun (name, text) => (name, .scalar text)) := by
  have each : List.Forall₂ Named
      (lines.map fun (name, text) => (.scalar name, .scalar text))
      (lines.map fun (name, text) => (name, .scalar text)) := by
    rw [List.forall₂_map_left_iff, List.forall₂_map_right_iff, List.forall₂_same]
    exact fun _ _ => ⟨rfl, rfl⟩
  have named := mapM_eq_some_iff_forall₂.2 (each.imp fun _ _ => named_iff.2)
  show Option.bind (List.mapM _ _) ofEntries? = _
  rw [named, Option.bind_some]

/-- A file of lines describes settings as its entries do. -/
theorem ofDocument_lines_iff {lines : List (String × String)}
    (lined : ∀ entry ∈ lines, Yaml.HasLine entry) :
    ofDocument (String.ofList (lines.flatMap Yaml.line)) = .ok settings ↔
      Described (lines.map fun (name, text) => (name, .scalar text)) settings := by
  rw [← ofEntries?_eq_some_iff]
  rcases lines with _ | ⟨entry, rest⟩
  · show Except.ok ({} : Settings) = .ok settings ↔ some ({} : Settings) = some settings
    simp
  · have visible : ¬(Text.trim
        (String.ofList ((entry :: rest).flatMap Yaml.line)).toList).isEmpty := by
      intro blank
      have colon := Text.isBlank_of_trim_isEmpty blank ':' (by simp [Yaml.line])
      revert colon
      decide
    simp only [ofDocument, visible, Yaml.Node.ofText?_lines (List.cons_ne_nil entry rest) lined,
      Option.bind_some, ofNode?_scalars]
    cases ofEntries? ((entry :: rest).map fun (name, text) => (name, .scalar text)) <;> simp

/-- The settings as the entries of a file. -/
def written (settings : Settings) : List (String × String) :=
  [("id_field", settings.idField), ("created_at_field", settings.createdAtField),
    ("updated_at_field", settings.updatedAtField), ("id_strategy", settings.idStrategy.name)]

theorem gives_of_perm {lines ignored : List (String × String)}
    (perm : lines.Perm (settings.written ++ ignored))
    (meaningless : ∀ entry ∈ ignored, entry.1 ∉ settings.written.map Prod.fst) (usual : String)
    {name text : String}
    (only : settings.written.filter (fun entry => entry.1 == name) = [(name, text)]) :
    Gives (lines.map fun (name, text) => (name, .scalar text)) name usual text := by
  have meaningful : name ∈ settings.written.map Prod.fst := by
    have member : (name, text) ∈ settings.written.filter fun entry => entry.1 == name :=
      only ▸ List.mem_singleton_self _
    exact List.mem_map_of_mem (List.mem_filter.1 member).1
  have rest : ignored.filter (fun entry => entry.1 == name) = [] := by
    refine List.filter_eq_nil_iff.2 ?_
    intro entry member same
    exact meaningless entry member (beq_iff_eq.1 same ▸ meaningful)
  have under := perm.filter fun entry => entry.1 == name
  rw [List.filter_append, only, rest, List.append_nil, List.perm_singleton] at under
  have scalars : ((lines.map fun (name, text) => (name, Yaml.Node.scalar text)).filter
      fun entry => entry.1 == name) = [(name, .scalar text)] := by
    rw [List.filter_map]
    exact congrArg (List.map fun (name, text) => (name, Yaml.Node.scalar text)) under
  exact .given scalars rfl

/-- Settings are read from their lines in any order, and from among lines under names
that mean nothing. -/
theorem ofDocument_of_perm {lines ignored : List (String × String)}
    (perm : lines.Perm (settings.written ++ ignored))
    (meaningless : ∀ entry ∈ ignored, entry.1 ∉ settings.written.map Prod.fst)
    (lined : ∀ entry ∈ lines, Yaml.HasLine entry) :
    ofDocument (String.ofList (lines.flatMap Yaml.line)) = .ok settings := by
  refine (ofDocument_lines_iff lined).2 ⟨?_, ?_, ?_, ?_⟩
  all_goals exact gives_of_perm perm meaningless _ rfl

example : ofDocument "id_strategy: 'prefixed'\nnote: 'it''s'\nid_field: 'key'\n" =
    .ok { idField := "key", idStrategy := .prefixed } := by decide +kernel

end Settings

end RecordQuery
