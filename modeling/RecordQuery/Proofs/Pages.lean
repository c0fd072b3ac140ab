import RecordQuery.Proofs.QueryAnswer

/-!
# The pages of a result

A query answered page by page. The pages up to the reported number of pages are the
whole answer cut into pieces of one size, of which only the last may be shorter.
Behind them is nothing, also where the offset of a page no longer fits a word.
-/

namespace RecordQuery

/-- The number of pages is the least that has room for all rows. -/
theorem PageSummary.totalPages_le_iff {page : Page} (positive : 0 < page.size)
    (total count : Nat) :
    (PageSummary.of page total).totalPages ≤ count ↔ total ≤ count * page.size := by
  have rounded : (total + page.size - 1) / page.size < count + 1 ↔
      total + page.size - 1 < (count + 1) * page.size := Nat.div_lt_iff_lt_mul positive
  rw [Nat.succ_mul] at rounded
  show (total + page.size - 1) / page.size ≤ count ↔ _
  omega

namespace Window

variable {α β : Type}

theorem map_apply (window : Window) (change : α → β) (rows : List α) :
    (window.apply rows).map change = window.apply (rows.map change) := by
  simp only [apply]
  cases window.limit? with
  | none => rw [List.map_drop]
  | some limit => rw [List.map_take, List.map_drop]

/-- An offset that does not fit leaves no rows, as the true offset would. -/
theorem apply_page {rows : List α} (short : rows.length ≤ maxPosition) (index size : Nat) :
    (page ⟨index + 1, size⟩).apply rows = (rows.drop (index * size)).take size := by
  have saturated : rows.drop (min (index * size) maxPosition) = rows.drop (index * size) := by
    rcases Nat.le_total (index * size) maxPosition with fits | beyond
    · rw [Nat.min_eq_left fits]
    · rw [Nat.min_eq_right beyond, List.drop_of_length_le short,
        List.drop_of_length_le (Nat.le_trans short beyond)]
  simp [apply, limit?, offset, Page.offset, saturated]

/-- The first pieces of one size, put together. -/
theorem flatMap_pieces (rows : List α) (size count : Nat) :
    ((List.range count).flatMap fun index => (rows.drop (index * size)).take size) =
      rows.take (count * size) := by
  induction count with
  | zero => simp
  | succ count ih =>
      rw [List.range_succ, List.flatMap_append, ih, Nat.succ_mul, List.take_add]
      simp

end Window

namespace Store

/-- The rows of a query, sorted and each cut to the selection, before a window is
taken. -/
def unlimited (store : Store) (spec : QuerySpec) : List Record :=
  (sortRows store.sorter spec.order (store.matching spec.entity spec.filters)).map
    (Record.project store.settings spec.select)

variable {store : Store} {spec : QuerySpec}

@[simp] theorem length_unlimited (store : Store) (spec : QuerySpec) :
    (store.unlimited spec).length = (store.matching spec.entity spec.filters).length := by
  rw [unlimited, List.length_map, (sortRows_perm _ _ _).length_eq]

theorem length_unlimited_le (store : Store) (spec : QuerySpec) :
    (store.unlimited spec).length ≤ (store.rows spec.entity).length := by
  rw [length_unlimited]
  exact List.length_filter_le _ _

theorem query_windowed (store : Store) (spec : QuerySpec) (window : Window) :
    store.query { spec with window } =
      .of (window.apply (store.unlimited spec)) (store.unlimited spec).length window := by
  rw [length_unlimited, unlimited, ← Window.map_apply]
  rfl

theorem data_query_page (short : (store.rows spec.entity).length ≤ maxPosition)
    (index size : Nat) :
    (store.query { spec with window := .page ⟨index + 1, size⟩ }).data =
      ((store.unlimited spec).drop (index * size)).take size := by
  rw [query_windowed]
  exact Window.apply_page (Nat.le_trans (length_unlimited_le store spec) short) index size

end Store

/-- The pages of a query are its whole answer, cut into pieces. Each page is answered
if the query without a window is. -/
theorem pages_partition_answer (adapter : Adapter) (supply : Supply) (spec : QuerySpec)
    (size : Nat) (memory : adapter.kind = .memory)
    (short : (adapter.store.rows spec.entity).length ≤ maxPosition) (positive : 0 < size) :
    ∃ (whole : QueryResult Record) (answer : Nat → QueryResult Record) (last : Nat),
      Adapter.query { spec with window := .all } adapter supply = (.ok whole, adapter, supply) ∧
      (∀ number, ∃ page, Page.make number size = .ok page ∧
        adapter.store.answers { spec with window := .page page } =
          adapter.store.answers { spec with window := .all } ∧
        Adapter.query { spec with window := .page page } adapter supply =
          (.ok (answer number), adapter, supply)) ∧
      (∀ number, (answer number).total = whole.total ∧
        (answer number).pagination = some ⟨max number 1, size, last⟩) ∧
      ((List.range last).flatMap fun index => (answer (index + 1)).data) = whole.data ∧
      (∀ number, 1 ≤ number → number < last → (answer number).data.length = size) ∧
      (1 ≤ last → 1 ≤ (answer last).data.length ∧ (answer last).data.length ≤ size) ∧
      (∀ number, last < number → (answer number).data = []) ∧
      answer 0 = answer 1 ∧ last ≤ maxPosition ∧
      (last = 0 ↔ adapter.store.matching spec.entity spec.filters = []) := by
  let rows := adapter.store.unlimited spec
  let last := (PageSummary.of ⟨1, size⟩ rows.length).totalPages
  let answer := fun number =>
    adapter.store.query { spec with window := .page ⟨max number 1, size⟩ }
  have room : ∀ count, last ≤ count ↔ rows.length ≤ count * size :=
    PageSummary.totalPages_le_iff positive rows.length
  have data : ∀ index, (answer (index + 1)).data = (rows.drop (index * size)).take size := by
    intro index
    have numbered : max (index + 1) 1 = index + 1 := Nat.max_eq_left (Nat.le_add_left 1 index)
    simp only [answer, numbered]
    exact Store.data_query_page short index size
  have queried := fun window => Adapter.query_of_memory memory { spec with window } supply
  refine ⟨adapter.store.query { spec with window := .all }, answer, last, queried .all, ?_, ?_, ?_,
    ?_, ?_, ?_, rfl, ?_, ?_⟩
  · intro number
    exact ⟨⟨max number 1, size⟩, if_neg (Nat.ne_of_gt positive),
      adapter.store.answers_windowed { spec with window := .all } _, queried _⟩
  · intro number
    simp only [answer, adapter.store.query_windowed]
    exact ⟨rfl, rfl⟩
  · have all : rows.length ≤ last * size := (room last).1 (Nat.le_refl last)
    simp only [data]
    rw [Window.flatMap_pieces, List.take_of_length_le all, adapter.store.query_windowed]
    rfl
  · intro number first before
    obtain ⟨index, rfl⟩ := Nat.exists_eq_add_of_le' first
    have full : ¬rows.length ≤ (index + 1) * size := mt (room _).2 (Nat.not_le.2 before)
    rw [Nat.succ_mul] at full
    rw [data, List.length_take, List.length_drop]
    omega
  · intro first
    obtain ⟨index, same⟩ := Nat.exists_eq_add_of_le' first
    have begun : ¬rows.length ≤ index * size := mt (room _).2 (by omega)
    rw [same, data, List.length_take, List.length_drop]
    omega
  · intro number after
    obtain ⟨index, rfl⟩ := Nat.exists_eq_add_of_lt after
    have past : rows.length ≤ (last + index) * size := (room _).1 (Nat.le_add_right last index)
    rw [data, List.drop_of_length_le past, List.take_nil]
  · have fits : rows.length ≤ maxPosition :=
      Nat.le_trans (adapter.store.length_unlimited_le spec) short
    exact (room _).2 (Nat.le_trans fits (Nat.le_mul_of_pos_right _ positive))
  · have none := room 0
    rw [Nat.le_zero, Nat.zero_mul, Nat.le_zero, adapter.store.length_unlimited,
      List.length_eq_zero_iff] at none
    exact none

/-- Three rows on pages of two: the second page has one row, and a page whose offset
does not fit a word has none. -/
theorem pages_partition_three :
    let rows : List Record := [[("id", .text "1")], [("id", .text "2")], [("id", .text "3")]]
    let adapter : Adapter :=
      { store := { tables := [("Item", rows.map fun row => (Record.key {} row, row))] } }
    let supply : Supply := ⟨fun _ => "u", fun _ => "t", 0, 0⟩
    let spec : QuerySpec := { entity := "Item" }
    ∃ answer : Nat → QueryResult Record,
      (∀ number, ∃ page, Page.make number 2 = .ok page ∧
        Adapter.query { spec with window := .page page } adapter supply =
          (.ok (answer number), adapter, supply)) ∧
      (answer 1).data ++ (answer 2).data = rows ∧ (answer 2).data.length = 1 ∧
      (answer maxPosition).data = [] := by
  intro rows adapter supply spec
  have short : (adapter.store.rows spec.entity).length ≤ maxPosition := by decide +kernel
  obtain ⟨whole, answer, last, wholeAnswered, answered, reported, pieces, -, -, behind, -⟩ :=
    pages_partition_answer adapter supply spec 2 rfl short Nat.two_pos
  have queried := fun window =>
    @Adapter.query_of_memory adapter rfl { spec with window } supply
  have whole_eq : whole.data = rows := by
    have computed : (adapter.store.query { spec with window := .all }).data = rows := by
      decide +kernel
    obtain rfl := Except.ok.inj (congrArg Prod.fst ((queried .all).symm.trans wholeAnswered))
    exact computed
  have second_eq : answer 2 = ⟨[[("id", .text "3")]], 3, some ⟨2, 2, 2⟩⟩ := by
    have computed : adapter.store.query { spec with window := .page ⟨2, 2⟩ } =
        ⟨[[("id", .text "3")]], 3, some ⟨2, 2, 2⟩⟩ := by decide +kernel
    obtain ⟨page, made, -, ran⟩ := answered 2
    obtain rfl : ⟨2, 2⟩ = page := Except.ok.inj made
    exact (Except.ok.inj (congrArg Prod.fst ((queried _).symm.trans ran))).symm.trans computed
  obtain rfl : 2 = last := by
    have summary := (reported 2).2
    rw [second_eq] at summary
    exact congrArg PageSummary.totalPages (Option.some.inj summary)
  refine ⟨answer, ?_, ?_, by rw [second_eq]; rfl, behind maxPosition (by decide)⟩
  · intro number
    obtain ⟨page, made, -, ran⟩ := answered number
    exact ⟨page, made, ran⟩
  · rw [← whole_eq, ← pieces]
    simp [List.range_succ]

end RecordQuery
