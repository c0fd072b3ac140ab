import RecordQuery.Proofs.Lookup

/-!
# The first row of a query

Asking for the first row cuts the window of a query to one row and runs the query
again, with filters and sorting of its own. The answer is the row that the whole
answer starts with, wherever the window begins and however few rows it holds. Both
sort the same rows, so they come to an answer together.
-/

namespace RecordQuery

/-- A first row as a value of the entity, if there is one. -/
def Entity.fromFirst {α : Type} (entity : Entity α) : Option Record → Except Error (Option α)
  | some record => (entity.fromRecord record).map some
  | none => .ok none

namespace Session

variable {α : Type} (session : Session) (entity : Entity α) {world : World}
  {builder : QueryBuilder} {spec : QuerySpec}

theorem runOn_records (memory : world.activeAdapter.kind = .memory)
    (compiled : session.compile entity builder = .ok spec) :
    (session.records entity builder).runOn world =
      (.ok (world.activeAdapter.store.query spec),
        world.setAdapter world.active world.activeAdapter) := by
  simp [records, compiled, Adapter.query_of_memory memory]

theorem runOn_first (memory : world.activeAdapter.kind = .memory)
    (compiled : session.compile entity builder = .ok spec) :
    (session.first entity builder).runOn world =
      (entity.fromFirst (world.activeAdapter.store.query spec).data.head?,
        world.setAdapter world.active world.activeAdapter) := by
  have called := Adapter.queryFirst_of_memory memory spec world.supply
  rw [Store.head?_query_firstRow] at called
  simp only [first, compiled, called, Engine.runOn_bind, Engine.runOn_ofExcept, Engine.runOn_call]
  cases (world.activeAdapter.store.query spec).data.head? <;> simp [Entity.fromFirst]

end Session

/-- Asking for the first row comes to an answer exactly if the query does. The first
row is then the one that the whole answer starts with, and there is none exactly if
the answer is empty. This holds for every query, whatever its filters, order,
selection and window. A builder that compiles therefore answers with the same row
first, decoded, whether it is asked for its records or for its first row, and leaves
the world in the same state. -/
theorem first_heads_answer {α : Type} (session : Session) (entity : Entity α) (world : World)
    (memory : world.activeAdapter.kind = .memory) :
    (∀ (spec : QuerySpec) (supply : Supply),
      world.activeAdapter.store.answers spec.firstRow =
          world.activeAdapter.store.answers spec ∧
        ∃ (result : QueryResult Record) (first : Option Record),
          Adapter.query spec world.activeAdapter supply =
              (.ok result, world.activeAdapter, supply) ∧
            Adapter.queryFirst spec world.activeAdapter supply =
              (.ok first, world.activeAdapter, supply) ∧
            first = result.data[0]? ∧ (first = none ↔ result.data = [])) ∧
    ∀ (builder : QueryBuilder) (spec : QuerySpec), session.compile entity builder = .ok spec →
      ∃ (result : QueryResult Record) (after : World),
        (session.records entity builder).runOn world = (.ok result, after) ∧
        (session.first entity builder).runOn world =
          (entity.fromFirst result.data[0]?, after) := by
  constructor
  · intro spec supply
    refine ⟨world.activeAdapter.store.answers_windowed spec spec.window.firstRow,
      world.activeAdapter.store.query spec, (world.activeAdapter.store.query spec).data[0]?,
      Adapter.query_of_memory memory spec supply, ?_, rfl, ?_⟩
    · rw [Adapter.queryFirst_of_memory memory, Store.head?_query_firstRow,
        List.head?_eq_getElem?]
    · rw [← List.head?_eq_getElem?, List.head?_eq_none_iff]
  · intro builder spec compiled
    refine ⟨_, _, session.runOn_records entity memory compiled, ?_⟩
    rw [session.runOn_first entity memory compiled, List.head?_eq_getElem?]

/-- Of three rows in descending order, the first one after one that is skipped is the
middle one. A limit of no rows leaves no first row, and neither does a page whose
offset does not fit a word. -/
theorem first_heads_answer_descending :
    let item : Entity Value := ⟨"Item", [], .ok, some⟩
    let rows : List Record :=
      [[("id", .text "a"), ("n", .number (.int 2))], [("id", .text "b"), ("n", .number (.int 1))],
        [("id", .text "c"), ("n", .number (.int 3))]]
    let world : World :=
      { adapters := [("main",
          { store := { tables := [("Item", rows.map fun row => (Record.key {} row, row))] } })]
        active := "main"
        supply := ⟨fun _ => "u", fun _ => "t", 0, 0⟩ }
    let sorted : QueryBuilder := { order := [⟨⟨["n"]⟩, .descending⟩] }
    ((Session.first {} item { sorted with skip := some 1 }).runOn world).1 =
        .ok (some (.object [("id", .text "a"), ("n", .number (.int 2))])) ∧
      ((Session.first {} item { sorted with limit := some 0 }).runOn world).1 = .ok none ∧
      ((Session.first {} item { sorted with page := some (maxPosition, 2) }).runOn world).1 =
        .ok none := by
  intro item rows world sorted
  obtain ⟨-, agree⟩ := first_heads_answer {} item world rfl
  have first_of : ∀ {builder spec result}, Session.compile {} item builder = .ok spec →
      ((Session.records {} item builder).runOn world).1 = .ok result →
        ((Session.first {} item builder).runOn world).1 = item.fromFirst result.data[0]? := by
    intro builder spec result compiled computed
    obtain ⟨answer, after, answered, first⟩ := agree builder spec compiled
    rw [answered] at computed
    obtain rfl := Except.ok.inj computed
    exact congrArg Prod.fst first
  have middle : ((Session.records {} item { sorted with skip := some 1 }).runOn world).1 =
      .ok ⟨[[("id", .text "a"), ("n", .number (.int 2))],
        [("id", .text "b"), ("n", .number (.int 1))]], 3, none⟩ := by decide +kernel
  have empty : ((Session.records {} item { sorted with limit := some 0 }).runOn world).1 =
      .ok ⟨[], 3, none⟩ := by decide +kernel
  have beyond : ((Session.records {} item
      { sorted with page := some (maxPosition, 2) }).runOn world).1 =
        .ok ⟨[], 3, some ⟨maxPosition, 2, 2⟩⟩ := by decide +kernel
  exact ⟨first_of rfl middle, first_of rfl empty, first_of rfl beyond⟩

end RecordQuery
