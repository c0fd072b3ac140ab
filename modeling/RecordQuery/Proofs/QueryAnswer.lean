import RecordQuery.Proofs.AdapterCalls
import RecordQuery.Proofs.SortOrder

/-!
# What a query answers

A query answers with the rows that it finds, sorted, cut to a window, and each cut
to the selected fields. Sorting needs the comparison to be consistent among the rows at
hand, which it is as long as no three of them are out of order, and so if no sort
key is a float. Rows that tie then stay in the order of the store.
-/

namespace RecordQuery

/-! ## Sorting by placing -/

namespace Sorting

variable {α β : Type}

/-- Placing sees elements only through `precedes`, so it can be done on elements
that carry something else along. -/
theorem place_map (view : α → β) (precedes : β → β → Bool) (element : α) (placed : List α) :
    place precedes (view element) (placed.map view) =
      (place (fun left right => precedes (view left) (view right)) element placed).map view := by
  induction placed with
  | nil => rfl
  | cons last placed ih =>
      simp only [List.map_cons, place]
      split
      · rw [ih, List.map_cons]
      · rfl

theorem sortBy_map (view : α → β) (precedes : β → β → Bool) (elements : List α) :
    sortBy precedes (elements.map view) =
      (sortBy (fun left right => precedes (view left) (view right)) elements).map view := by
  have grown : ∀ placed : List α,
      (elements.map view).foldl (fun placed element => place precedes element placed)
          (placed.map view) =
        (elements.foldl (fun placed element =>
          place (fun left right => precedes (view left) (view right)) element placed)
            placed).map view := by
    induction elements with
    | nil => exact fun _ => rfl
    | cons element rest ih =>
        intro placed
        simp only [List.map_cons, List.foldl_cons]
        rw [place_map, ih]
  have whole := grown []
  simp only [List.map_nil] at whole
  rw [sortBy, sortBy, whole, List.map_reverse]

/-- Elements of which none precedes another stay in place. -/
theorem sortBy_never (elements : List α) : sortBy (fun _ _ => false) elements = elements := by
  have placed : (fun (placed : List α) element => place (fun _ _ => false) element placed) =
      fun placed element => element :: placed := by
    funext placed element
    cases placed <;> rfl
  rw [sortBy, placed, List.foldl_flip_cons_eq_append, List.append_nil, List.reverse_reverse,
    List.map_id']

/-- Two elements stand in the right order: the second does not precede the first,
and if they tie, the first was there before. -/
def Settled (precedes : α → α → Bool) (before : α → α → Prop) (first second : α) : Prop :=
  ¬precedes second first ∧ (precedes first second ∨ before first second)

namespace Consistent

theorem comap {precedes : β → β → Bool} {among : β → Prop}
    (consistent : Consistent precedes among) (view : α → β) :
    Consistent (fun left right => precedes (view left) (view right))
      fun element => among (view element) :=
  ⟨consistent.asymm, consistent.trans⟩

variable {precedes : α → α → Bool} {among : α → Prop} {before : α → α → Prop}

/-- Placed elements are listed last first, hence the turned relation. -/
theorem pairwise_place (consistent : Consistent precedes among) {element : α} {placed : List α}
    (elementAmong : among element) (placedAmong : ∀ other ∈ placed, among other)
    (older : ∀ other ∈ placed, before other element)
    (settled : placed.Pairwise fun later earlier => Settled precedes before earlier later) :
    (place precedes element placed).Pairwise
      fun later earlier => Settled precedes before earlier later := by
  induction placed with
  | nil => exact List.pairwise_singleton _ _
  | cons last placed ih =>
      obtain ⟨belowLast, settledRest⟩ := List.pairwise_cons.1 settled
      obtain ⟨lastAmong, restAmong⟩ := List.forall_mem_cons.1 placedAmong
      obtain ⟨lastOlder, restOlder⟩ := List.forall_mem_cons.1 older
      rw [place]
      split
      case isTrue moves =>
        refine List.pairwise_cons.2 ⟨?_, ih restAmong restOlder settledRest⟩
        intro other member
        rcases List.mem_cons.1 ((place_perm precedes element placed).mem_iff.1 member) with
          same | kept
        · subst same
          exact ⟨consistent.asymm elementAmong lastAmong moves, .inl moves⟩
        · exact belowLast other kept
      case isFalse stays =>
        refine List.pairwise_cons.2 ⟨?_, settled⟩
        intro other member
        rcases List.mem_cons.1 member with same | member
        · subst same
          exact ⟨stays, .inr lastOlder⟩
        · have notBefore : ¬precedes element other :=
            consistent.trans (restAmong other member) lastAmong elementAmong
              (belowLast other member).1 stays
          exact ⟨notBefore, .inr (restOlder other member)⟩

/-- Sorting is stable: each element stands right towards every later one. -/
theorem pairwise_sortBy (consistent : Consistent precedes among) {elements : List α}
    (elementsAmong : ∀ element ∈ elements, among element) (ordered : elements.Pairwise before) :
    (sortBy precedes elements).Pairwise (Settled precedes before) := by
  have grown : ∀ placed : List α, (∀ other ∈ placed, among other) →
      (∀ other ∈ placed, ∀ element ∈ elements, before other element) →
      (placed.Pairwise fun later earlier => Settled precedes before earlier later) →
      (elements.foldl (fun placed element => place precedes element placed) placed).Pairwise
        fun later earlier => Settled precedes before earlier later := by
    induction elements with
    | nil => exact fun placed _ _ settled => settled
    | cons element rest ih =>
        intro placed placedAmong older settled
        obtain ⟨elementFirst, restOrdered⟩ := List.pairwise_cons.1 ordered
        obtain ⟨elementAmong, restAmong⟩ := List.forall_mem_cons.1 elementsAmong
        have member : ∀ other ∈ place precedes element placed, other = element ∨ other ∈ placed :=
          fun other placedNow =>
            List.mem_cons.1 ((place_perm precedes element placed).mem_iff.1 placedNow)
        apply ih restAmong restOrdered
        · intro other placedNow
          rcases member other placedNow with same | kept
          · exact same ▸ elementAmong
          · exact placedAmong other kept
        · intro other placedNow later laterMember
          rcases member other placedNow with same | kept
          · exact same ▸ elementFirst later laterMember
          · exact older other kept later (List.mem_cons_of_mem _ laterMember)
        · apply consistent.pairwise_place elementAmong placedAmong _ settled
          intro other kept
          exact older other kept element List.mem_cons_self
  rw [sortBy, List.pairwise_reverse]
  exact grown [] nofun nofun List.Pairwise.nil

end Consistent

end Sorting

/-! ## Rows that can be sorted -/

/-- Whether a sort key is a float. Only these are compared after rounding. -/
def Leaf.isFloat : Leaf → Bool
  | some (.number (.float _)) => true
  | _ => false

theorem OrderClause.Splits.isFloat {clause : OrderClause} {first second third : Record}
    (splits : clause.Splits first second third) : (clause.key third).isFloat := by
  obtain ⟨_, _, _, float, _, _, same, _⟩ := splits
  rw [same]
  rfl

/-- Rows out of order have a float among their sort keys. -/
theorem Misordered.exists_isFloat {clauses : List OrderClause} {first second third : Record}
    (misordered : Misordered clauses first second third) :
    ∃ clause ∈ clauses, (clause.key first).isFloat ∨ (clause.key second).isFloat ∨
      (clause.key third).isFloat := by
  induction misordered with
  | tied _ _ _ _ ih =>
      obtain ⟨clause, member, float⟩ := ih
      exact ⟨clause, List.mem_cons_of_mem _ member, float⟩
  | floatSecond splits => exact ⟨_, List.mem_cons_self, .inr (.inl splits.isFloat)⟩
  | floatThird splits => exact ⟨_, List.mem_cons_self, .inr (.inr splits.isFloat)⟩
  | floatFirst splits => exact ⟨_, List.mem_cons_self, .inl splits.isFloat⟩

theorem not_rowPrecedes_iff {clauses : List OrderClause} {earlier later : Record} :
    ¬rowPrecedes clauses later earlier ↔ (compareRows clauses earlier later).isLE := by
  rw [rowPrecedes, compareRows_swap clauses earlier later]
  cases compareRows clauses earlier later <;> decide

/-- Comparing rows is consistent among certain rows exactly if no three of them are
out of order. -/
theorem consistent_rowPrecedes_iff {clauses : List OrderClause} {among : Record → Prop} :
    Sorting.Consistent (rowPrecedes clauses) among ↔
      ∀ {first second third : Record}, among first → among second → among third →
        ¬Misordered clauses first second third := by
  constructor
  · intro consistent first second third firstAmong secondAmong thirdAmong misordered
    obtain ⟨firstLe, secondLe, less⟩ := misordered_iff.1 misordered
    exact consistent.trans firstAmong secondAmong thirdAmong
      (not_rowPrecedes_iff.2 firstLe) (not_rowPrecedes_iff.2 secondLe) (beq_iff_eq.2 less)
  · intro ordered
    constructor
    · intro left right _ _ less more
      rw [rowPrecedes, compareRows_swap clauses left right, beq_iff_eq.1 less] at more
      cases more
    · intro first second third firstAmong secondAmong thirdAmong firstLe secondLe less
      exact ordered firstAmong secondAmong thirdAmong (misordered_iff.2
        ⟨not_rowPrecedes_iff.1 firstLe, not_rowPrecedes_iff.1 secondLe, beq_iff_eq.1 less⟩)

/-- Rows among which no clause tells any apart are left in place. -/
@[simp] theorem sortRows_nil (sorter : Sorter) (rows : List Record) :
    sortRows sorter [] rows = rows := by
  have consistent : Sorting.Consistent (rowPrecedes []) (· ∈ rows) :=
    consistent_rowPrecedes_iff.2 fun _ _ _ => nofun
  exact (sortRows_of_consistent sorter consistent).trans (Sorting.sortBy_never rows)

/-! ## The answer -/

/-- A row of a window is the row as many places further on in the whole list. -/
@[simp] theorem Window.getElem?_apply {α : Type} (window : Window) (rows : List α)
    (position : Nat) :
    (window.apply rows)[position]? =
      if window.limit?.all (position < ·) then rows[window.offset + position]? else none := by
  rw [apply]
  cases window.limit? with
  | none => simp
  | some limit => simp [List.getElem?_take]

/-- The first row of a window is all that the window cut to its first row holds. -/
@[simp] theorem Window.head?_apply_firstRow {α : Type} (window : Window) (rows : List α) :
    (window.firstRow.apply rows).head? = (window.apply rows).head? := by
  have sameStart : window.firstRow.offset = window.offset := rfl
  have sameRoom : window.firstRow.limit?.all (0 < ·) = window.limit?.all (0 < ·) := by
    show (some (window.limit?.elim 1 (min · 1))).all (0 < ·) = _
    cases window.limit? with
    | none => rfl
    | some limit =>
        show decide (0 < min limit 1) = decide (0 < limit)
        exact decide_eq_decide.mpr (by omega)
  rw [List.head?_eq_getElem?, List.head?_eq_getElem?, getElem?_apply, getElem?_apply, sameStart,
    sameRoom]

namespace Store

/-- Cutting a query to its first row changes neither what it finds nor how that is
sorted, so its answer starts with the same row. -/
@[simp] theorem head?_query_firstRow (store : Store) (spec : QuerySpec) :
    (store.query spec.firstRow).data.head? = (store.query spec).data.head? := by
  simp only [query, QueryResult.of, QuerySpec.firstRow, List.head?_map,
    Window.head?_apply_firstRow]

/-- Whether a query is answered does not depend on its window. -/
theorem answers_windowed (store : Store) (spec : QuerySpec) (window : Window) :
    store.answers { spec with window } = store.answers spec := rfl

/-- No three of the rows that a query finds are out of order. -/
def Sortable (store : Store) (spec : QuerySpec) : Prop :=
  let found := store.matching spec.entity spec.filters
  ∀ first ∈ found, ∀ second ∈ found, ∀ third ∈ found, ¬Misordered spec.order first second third

theorem sortable_of_exact {store : Store} {spec : QuerySpec}
    (exact : ∀ row ∈ store.matching spec.entity spec.filters, ∀ clause ∈ spec.order,
      ¬(clause.key row).isFloat) : store.Sortable spec := by
  intro first firstFound second secondFound third thirdFound misordered
  obtain ⟨clause, member, float⟩ := misordered.exists_isFloat
  rcases float with float | float | float
  · exact exact first firstFound clause member float
  · exact exact second secondFound clause member float
  · exact exact third thirdFound clause member float

namespace Sortable

variable {store : Store} {spec : QuerySpec}

theorem consistent (sortable : store.Sortable spec) :
    Sorting.Consistent (rowPrecedes spec.order)
      (· ∈ store.matching spec.entity spec.filters) :=
  consistent_rowPrecedes_iff.2 fun firstFound secondFound thirdFound =>
    sortable _ firstFound _ secondFound _ thirdFound

/-- Rows of which no three are out of order can be sorted, so that a query for them is
answered. -/
theorem answers (sortable : store.Sortable spec) : store.answers spec := by
  rw [Store.answers, Store.sorted?, store.sorter.stable sortable.consistent]
  rfl

end Sortable

/-- The rows that satisfy all filters, each with its position in the store. -/
def placedMatching (store : Store) (entity : String) (filters : List Filter) :
    List (Record × Nat) :=
  (store.rows entity).zipIdx.filter fun (row, _) => Filter.allHold row filters

theorem map_fst_placedMatching (store : Store) (entity : String) (filters : List Filter) :
    (store.placedMatching entity filters).map Prod.fst = store.matching entity filters := by
  have split := List.filter_map (p := fun row => Filter.allHold row filters) (f := Prod.fst)
    (l := (store.rows entity).zipIdx)
  rw [List.zipIdx_map_fst] at split
  exact split.symm

theorem pairwise_placedMatching (store : Store) (entity : String) (filters : List Filter) :
    (store.placedMatching entity filters).Pairwise fun earlier later => earlier.2 < later.2 := by
  have positions : ((store.rows entity).zipIdx.map Prod.snd).Pairwise (· < ·) := by
    rw [List.zipIdx_map_snd]
    exact List.pairwise_lt_range'
  exact (List.pairwise_map.1 positions).filter _

/-- The rows of an unlimited query with their positions in the store, in the order
of the answer. -/
def placedAnswer (store : Store) (spec : QuerySpec) : List (Record × Nat) :=
  Sorting.sortBy (fun left right => rowPrecedes spec.order left.1 right.1)
    (store.placedMatching spec.entity spec.filters)

theorem map_fst_placedAnswer {store : Store} {spec : QuerySpec} (sortable : store.Sortable spec) :
    (store.placedAnswer spec).map Prod.fst =
      sortRows store.sorter spec.order (store.matching spec.entity spec.filters) := by
  rw [sortRows_of_consistent store.sorter sortable.consistent, ← map_fst_placedMatching,
    Sorting.sortBy_map]
  rfl

theorem pairwise_placedAnswer {store : Store} {spec : QuerySpec} (sortable : store.Sortable spec) :
    (store.placedAnswer spec).Pairwise fun earlier later =>
      compareRows spec.order earlier.1 later.1 ≠ .gt ∧
        (compareRows spec.order earlier.1 later.1 = .eq → earlier.2 < later.2) := by
  have settled := (sortable.consistent.comap Prod.fst).pairwise_sortBy
    (fun _ member => store.map_fst_placedMatching _ _ ▸ List.mem_map_of_mem member)
    (store.pairwise_placedMatching spec.entity spec.filters)
  apply settled.imp
  intro earlier later settled
  refine ⟨Ordering.isLE_iff_ne_gt.1 (not_rowPrecedes_iff.1 settled.1), ?_⟩
  intro tied
  rcases settled.2 with less | before
  · simp [rowPrecedes, tied] at less
  · exact before

theorem placedAnswer_of_unordered {store : Store} {spec : QuerySpec} (unordered : spec.order = []) :
    store.placedAnswer spec = store.placedMatching spec.entity spec.filters := by
  rw [placedAnswer, unordered]
  exact Sorting.sortBy_never _

end Store

/-- A query of a memory adapter is answered, changes nothing, and answers as its
parts say, as long as no sort key of a row that is found is a float. All rows that
satisfy the filters, and no others, stand in a list in which no row compares as
greater than a later one and rows that tie keep the order of the store. The answer
has the rows of this list that the window covers, each cut to the selection after
sorting, the length of the list, and a page summary exactly for pages. -/
theorem query_answers_sorted (adapter : Adapter) (supply : Supply) (spec : QuerySpec)
    (memory : adapter.kind = .memory)
    (exact : ∀ row ∈ adapter.store.matching spec.entity spec.filters, ∀ clause ∈ spec.order,
      ¬(clause.key row).isFloat) :
    adapter.store.answers spec ∧
    ∃ (result : QueryResult Record) (rows : List (Record × Nat)),
      Adapter.query spec adapter supply = (.ok result, adapter, supply) ∧
      rows.Perm ((adapter.store.rows spec.entity).zipIdx.filter fun (row, _) =>
        Filter.allHold row spec.filters) ∧
      (rows.Pairwise fun earlier later =>
        compareRows spec.order earlier.1 later.1 ≠ .gt ∧
          (compareRows spec.order earlier.1 later.1 = .eq → earlier.2 < later.2)) ∧
      (spec.order = [] → rows = (adapter.store.rows spec.entity).zipIdx.filter fun (row, _) =>
        Filter.allHold row spec.filters) ∧
      result.total = rows.length ∧
      (∀ position, result.data[position]? =
        if spec.window.limit?.all (position < ·) then
          rows[spec.window.offset + position]?.map fun (row, _) =>
            Record.project adapter.store.settings spec.select row
        else none) ∧
      ∀ summary, result.pagination = some summary ↔
        ∃ page, spec.window = .page page ∧ summary = .of page rows.length := by
  have sortable := Store.sortable_of_exact exact
  have rows_eq := Store.map_fst_placedAnswer sortable
  have perm : (adapter.store.placedAnswer spec).Perm
      (adapter.store.placedMatching spec.entity spec.filters) := Sorting.sortBy_perm _ _
  have total : (adapter.store.matching spec.entity spec.filters).length =
      (adapter.store.placedAnswer spec).length := by
    rw [← adapter.store.map_fst_placedMatching, List.length_map, perm.length_eq]
  refine ⟨sortable.answers, adapter.store.query spec, adapter.store.placedAnswer spec,
    Adapter.query_of_memory memory spec supply, perm, Store.pairwise_placedAnswer sortable,
    Store.placedAnswer_of_unordered, total, ?_, ?_⟩
  · intro position
    simp only [Store.query, QueryResult.of, List.getElem?_map, Window.getElem?_apply, ← rows_eq]
    split
    · rw [Option.map_map]
      rfl
    · rfl
  · intro summary
    simp only [Store.query, QueryResult.of, total]
    cases spec.window with
    | page page => simp [eq_comm]
    | _ => simp

/-- One of five rows does not satisfy the filter. The others are sorted by a field
that is not selected: of the two rows that tie the one created first comes first, and
a row without the field comes last. The second page of two rows is the later one of
the pair, which has been moved there, and the row without the field. -/
theorem query_answers_secondPage :
    let row (id name : String) (status : String) (rank : List (String × Value)) : Record :=
      [("id", .text id), ("name", .text name), ("status", .text status)] ++ rank
    let ranked (n : Int) : List (String × Value) := [("n", .number (.int n))]
    let rows : List Record :=
      [row "1" "a" "open" (ranked 2), row "2" "b" "done" (ranked 3), row "3" "c" "open" [],
        row "4" "d" "open" (ranked 2), row "5" "e" "open" (ranked 1)]
    let adapter : Adapter :=
      { store := { tables := [("Item", rows.map fun row => (Record.key {} row, row))] } }
    let supply : Supply := ⟨fun _ => "u", fun _ => "t", 0, 0⟩
    let spec : QuerySpec :=
      { entity := "Item"
        filters := [.condition (.of ⟨["status"]⟩ .eq (.text "open"))]
        select := ["name"]
        order := [⟨⟨["n"]⟩, .ascending⟩]
        window := .page ⟨2, 2⟩ }
    (∀ row ∈ adapter.store.matching spec.entity spec.filters, ∀ clause ∈ spec.order,
        ¬(clause.key row).isFloat) ∧
      ∃ result, Adapter.query spec adapter supply = (.ok result, adapter, supply) ∧
        result.data = [[("id", .text "4"), ("name", .text "d")],
          [("id", .text "3"), ("name", .text "c")]] ∧
        result.total = 4 := by
  intro row ranked rows adapter supply spec
  have exact : ∀ row ∈ adapter.store.matching spec.entity spec.filters, ∀ clause ∈ spec.order,
      ¬(clause.key row).isFloat := by decide +kernel
  obtain ⟨-, result, -, answered, -⟩ := query_answers_sorted adapter supply spec rfl exact
  have computed : adapter.store.query spec =
      ⟨[[("id", .text "4"), ("name", .text "d")], [("id", .text "3"), ("name", .text "c")]], 4,
        some ⟨2, 2, 2⟩⟩ := by decide +kernel
  have memory : adapter.kind = .memory := rfl
  have ran := Adapter.query_of_memory memory spec supply
  rw [computed] at ran
  obtain rfl := Except.ok.inj (congrArg Prod.fst (answered.symm.trans ran))
  exact ⟨exact, _, ran, rfl, rfl⟩

end RecordQuery
