import RecordQuery.Proofs.AllOrNothing
import RecordQuery.Proofs.Lookup
import RecordQuery.Proofs.Pages

/-!
# Tables are in creation order

The steps of a run are numbered, and every row is tagged with the step that created
it. Tags are not part of a store: a chronicle is kept beside it, which changes only
when a row is created, and which a transaction keeps aside and returns to together
with the tables. In every state of every run the tags of each table ascend, so the
order of the store is the order of creation.
-/

namespace RecordQuery

/-- The numbers of the steps that created rows, by entity and key. -/
abbrev Tags := String → String → Nat

/-- The tags after a row was created. -/
def Tags.mark (tags : Tags) (entity key : String) (step : Nat) : Tags := fun other otherKey =>
  if other = entity ∧ otherKey = key then step else tags other otherKey

/-- A record of a run: the number of its steps, the tags of the rows, and the tags
that belong to the tables kept aside. -/
structure Chronicle where
  steps : Nat := 0
  tags : Tags := fun _ _ => 0
  kept : Tags := fun _ _ => 0

namespace Chronicle

/-- The record after one more step, in which a call is made on an adapter. A row
that is created gets the number of the step. -/
def note (chronicle : Chronicle) (request : AdapterRequest) (adapter : Adapter)
    (supply : Supply) : Chronicle :=
  let step := chronicle.steps + 1
  match request with
  | .data (.create spec) =>
      match (Adapter.create spec adapter supply).1 with
      | .ok row =>
          let key := Record.key adapter.store.settings row
          { chronicle with steps := step, tags := chronicle.tags.mark spec.entity key step }
      | .error _ => { chronicle with steps := step }
  | .begin =>
      match adapter.begin.1 with
      | .ok () => { chronicle with steps := step, kept := chronicle.tags }
      | .error _ => { chronicle with steps := step }
  | .rollback =>
      match adapter.rollback.1 with
      | .ok () => { chronicle with steps := step, tags := chronicle.kept }
      | .error _ => { chronicle with steps := step }
  | _ => { chronicle with steps := step }

/-- Carry out calls one after the other and record them. -/
def runAll : List AdapterRequest → Chronicle → Adapter → Supply → Chronicle × Adapter × Supply
  | [], chronicle, adapter, supply => (chronicle, adapter, supply)
  | request :: rest, chronicle, adapter, supply =>
      let (_, after, left) := request.perform adapter supply
      runAll rest (chronicle.note request adapter supply) after left

/-- Recording a run does not interfere with it. -/
theorem runAll_snd (requests : List AdapterRequest) (chronicle : Chronicle) (adapter : Adapter)
    (supply : Supply) :
    (runAll requests chronicle adapter supply).2 =
      AdapterRequest.runAll requests adapter supply := by
  induction requests generalizing chronicle adapter supply with
  | nil => rfl
  | cons request rest ih => exact ih _ _ _

theorem steps_note (chronicle : Chronicle) (request : AdapterRequest) (adapter : Adapter)
    (supply : Supply) : (chronicle.note request adapter supply).steps = chronicle.steps + 1 := by
  simp only [note]
  split
  · split <;> rfl
  · split <;> rfl
  · split <;> rfl
  · rfl

end Chronicle

/-! ## Tables with ascending tags -/

/-- The tags of each table ascend, and every row has a tag of a step that was made. -/
structure InOrder (tags : Tags) (steps : Nat) (table : String → Table) : Prop where
  ascending : ∀ entity, (table entity).keys.Pairwise fun earlier later =>
    tags entity earlier < tags entity later
  numbered : ∀ entity, ∀ key ∈ (table entity).keys,
    0 < tags entity key ∧ tags entity key ≤ steps

namespace InOrder

variable {tags : Tags} {steps : Nat} {table : String → Table}

/-- Dropping rows, and rewriting them in place, keeps the order. -/
theorem sublist (inOrder : InOrder tags steps table) {other : String → Table}
    (keeps : ∀ entity, (other entity).keys.Sublist (table entity).keys) :
    InOrder tags steps other where
  ascending := fun entity => (inOrder.ascending entity).sublist (keeps entity)
  numbered := fun entity key member => inOrder.numbered entity key ((keeps entity).subset member)

theorem empty (tags : Tags) (steps : Nat) : InOrder tags steps fun _ => [] where
  ascending := fun _ => List.Pairwise.nil
  numbered := fun _ _ member => absurd member List.not_mem_nil

theorem later (inOrder : InOrder tags steps table) : InOrder tags (steps + 1) table where
  ascending := inOrder.ascending
  numbered := fun entity key member =>
    let ⟨positive, made⟩ := inOrder.numbered entity key member
    ⟨positive, Nat.le_succ_of_le made⟩

/-- A new row goes to the end, and its step is the last one. -/
theorem create {store : Store} (inOrder : InOrder tags steps store.table) (entity : String)
    {key : String} (absent : key ∉ (store.table entity).keys) (row : Record) :
    InOrder (tags.mark entity key (steps + 1)) (steps + 1)
      (store.setTable entity (store.table entity ++ [(key, row)])).table := by
  have old : ∀ other, ∀ present ∈ (store.table other).keys,
      tags.mark entity key (steps + 1) other present = tags other present := by
    intro other present member
    refine if_neg ?_
    rintro ⟨rfl, rfl⟩
    exact absent member
  have marked : tags.mark entity key (steps + 1) entity key = steps + 1 := if_pos ⟨rfl, rfl⟩
  have keys_eq : ∀ other,
      ((store.setTable entity (store.table entity ++ [(key, row)])).table other).keys =
        if entity = other then (store.table entity).keys ++ [key]
        else (store.table other).keys := by
    intro other
    by_cases same : entity = other <;> simp [same, Keyed.keys]
  constructor
  · intro other
    have before : (store.table other).keys.Pairwise fun earlier later =>
        tags.mark entity key (steps + 1) other earlier <
          tags.mark entity key (steps + 1) other later := by
      refine (inOrder.ascending other).imp_of_mem ?_
      intro earlier later earlierMember laterMember less
      rwa [old other earlier earlierMember, old other later laterMember]
    rw [keys_eq]
    split
    case isFalse => exact before
    case isTrue same =>
      subst same
      refine List.pairwise_append.2 ⟨before, List.pairwise_singleton _ _, ?_⟩
      intro present member added addedMember
      rw [List.mem_singleton.1 addedMember, old entity present member, marked]
      exact Nat.lt_succ_of_le (inOrder.numbered entity present member).2
  · intro other present member
    rw [keys_eq] at member
    split at member
    case isFalse =>
      rw [old other present member]
      exact inOrder.later.numbered other present member
    case isTrue same =>
      subst same
      rcases List.mem_append.1 member with kept | added
      · rw [old entity present kept]
        exact inOrder.later.numbered entity present kept
      · rw [List.mem_singleton.1 added, marked]
        exact ⟨Nat.succ_pos steps, Nat.le_refl _⟩

end InOrder

/-! ## Operations of the store -/

namespace Store

variable (store : Store)

/-- An update moves no row. -/
theorem keys_update (spec : UpdateSpec) (now entity : String) :
    ((store.update spec now).2.table entity).keys = (store.table entity).keys := by
  rw [table_update]
  split
  case isTrue same => simp [Keyed.keys, same, Function.comp_def]
  case isFalse => rfl

/-- A removal does not reorder the rows that stay. -/
theorem sublist_delete (spec : DeleteSpec) (entity : String) :
    ((store.delete spec).2.table entity).Sublist (store.table entity) := by
  rw [table_delete]
  split
  case isTrue same => exact same ▸ List.filter_sublist
  case isFalse => exact List.Sublist.refl _

end Store

/-! ## Steps -/

namespace Chronicle

/-- A chronicle tells how the tables of a store came about, the present ones and
those kept aside. -/
structure Tells (chronicle : Chronicle) (store : Store) : Prop where
  present : InOrder chronicle.tags chronicle.steps store.table
  aside : ∀ saved, store.snapshot = some saved →
    InOrder chronicle.kept chronicle.steps fun entity => (saved.get? entity).getD []

namespace Tells

variable {chronicle : Chronicle} {store : Store}

/-- Without an open transaction there are no tables kept aside. -/
theorem of_closed (present : InOrder chronicle.tags chronicle.steps store.table)
    (closed : store.snapshot = none) : chronicle.Tells store where
  present := present
  aside := by
    intro saved isOpen
    rw [closed] at isOpen
    cases isOpen

/-- A step that neither creates a row nor touches the tables kept aside. -/
theorem sublist (tells : chronicle.Tells store) {after : Store}
    (keeps : ∀ entity, (after.table entity).keys.Sublist (store.table entity).keys)
    (snapshot : after.snapshot = store.snapshot) :
    Tells { chronicle with steps := chronicle.steps + 1 } after where
  present := tells.present.later.sublist keeps
  aside := fun saved isOpen => (tells.aside saved (snapshot ▸ isOpen)).later

theorem stay (tells : chronicle.Tells store) :
    Tells { chronicle with steps := chronicle.steps + 1 } store :=
  tells.sublist (fun _ => List.Sublist.refl _) rfl

theorem create (tells : chronicle.Tells store) {spec : CreateSpec} {unique now : String}
    {row : Record} (created : (store.create spec unique now).1 = .ok row) :
    Tells
      { chronicle with
        steps := chronicle.steps + 1
        tags := chronicle.tags.mark spec.entity (Record.key store.settings row)
          (chronicle.steps + 1) }
      (store.create spec unique now).2 := by
  obtain ⟨absent, appended⟩ := store.create_of_ok created
  rw [appended]
  exact ⟨tells.present.create spec.entity absent row,
    fun saved isOpen => (tells.aside saved isOpen).later⟩

/-- Every step keeps the order. -/
theorem note {adapter : Adapter} (tells : chronicle.Tells adapter.store)
    (memory : adapter.kind = .memory) (request : AdapterRequest) (supply : Supply) :
    (chronicle.note request adapter supply).Tells
      (request.perform adapter supply).2.1.store := by
  cases request with
  | data call =>
      cases call with
      | query | queryFirst | count => exact tells.stay
      | create spec =>
          have called := Adapter.create_of_memory memory spec supply
          simp only [Chronicle.note, AdapterRequest.perform, DataCall.perform, called]
          cases ran : (adapter.store.create spec supply.id supply.time).1 with
          | ok row => exact tells.create ran
          | error error =>
              rw [adapter.store.create_of_error ran]
              exact tells.stay
      | update spec =>
          have called := Adapter.update_of_memory memory spec supply
          obtain ⟨tables, changed⟩ := adapter.store.update_frame spec supply.time
          show Tells _ (Adapter.update spec adapter supply).2.1.store
          rw [called]
          refine tells.sublist ?_ (by rw [changed])
          intro entity
          exact (adapter.store.keys_update spec supply.time entity) ▸ List.Sublist.refl _
      | delete spec =>
          have called := Adapter.delete_of_memory memory spec supply
          obtain ⟨tables, changed⟩ := adapter.store.delete_frame spec
          show Tells _ (Adapter.delete spec adapter supply).2.1.store
          rw [called]
          refine tells.sublist ?_ (by rw [changed])
          intro entity
          exact (adapter.store.sublist_delete spec entity).map Prod.fst
  | begin =>
      cases opened : adapter.store.snapshot with
      | some saved =>
          simp only [Chronicle.note, AdapterRequest.perform, Adapter.begin_of_open memory opened]
          exact tells.stay
      | none =>
          simp only [Chronicle.note, AdapterRequest.perform,
            Adapter.begin_of_closed memory opened]
          refine ⟨tells.present.later, ?_⟩
          intro saved isOpen
          cases isOpen
          exact tells.present.later
  | commit =>
      cases opened : adapter.store.snapshot with
      | some saved =>
          simp only [Chronicle.note, AdapterRequest.perform, Adapter.commit_of_open memory opened]
          exact .of_closed tells.present.later rfl
      | none =>
          simp only [Chronicle.note, AdapterRequest.perform,
            Adapter.commit_of_closed memory opened]
          exact tells.stay
  | rollback =>
      cases opened : adapter.store.snapshot with
      | some saved =>
          simp only [Chronicle.note, AdapterRequest.perform,
            Adapter.rollback_of_open memory opened]
          exact .of_closed (tells.aside saved opened).later rfl
      | none =>
          simp only [Chronicle.note, AdapterRequest.perform,
            Adapter.rollback_of_closed memory opened]
          exact tells.stay
  | clear => exact .of_closed (.empty _ _) rfl

/-- Every run keeps the order. -/
theorem runAll (requests : List AdapterRequest) {chronicle : Chronicle} {adapter : Adapter}
    (tells : chronicle.Tells adapter.store) (memory : adapter.kind = .memory)
    (supply : Supply) :
    let ended := Chronicle.runAll requests chronicle adapter supply
    ended.1.steps = chronicle.steps + requests.length ∧ ended.1.Tells ended.2.1.store := by
  induction requests generalizing chronicle adapter supply with
  | nil => exact ⟨rfl, tells⟩
  | cons request rest ih =>
      obtain ⟨steps, told⟩ := ih (tells.note memory request supply)
        (request.perform_kind adapter supply memory) (request.perform adapter supply).2.2
      refine ⟨steps.trans ?_, told⟩
      rw [steps_note, List.length_cons, Nat.add_assoc, Nat.add_comm 1]

end Tells

end Chronicle

/-! ## Unsorted queries -/

theorem Window.apply_sublist {α : Type} (window : Window) (rows : List α) :
    (window.apply rows).Sublist rows := by
  rw [apply]
  cases window.limit? with
  | none => exact List.drop_sublist _ _
  | some limit => exact (List.take_sublist _ _).trans (List.drop_sublist _ _)

/-- A query without order clauses answers in the order of the store. -/
theorem Store.data_query_of_unordered (store : Store) {spec : QuerySpec}
    (unordered : spec.order = []) :
    (store.query spec).data =
      (spec.window.apply (store.found spec.entity spec.filters)).map fun (_, row) =>
        Record.project store.settings spec.select row := by
  simp only [query, QueryResult.of, unordered, sortRows_nil, matching_eq]
  rw [← Window.map_apply, List.map_map]
  rfl

/-- From the empty store, whatever is called and whatever fails, the rows of each
table are in the order of the steps that created them, and so are those of the
tables that a rollback would return to. An unsorted query therefore answers in that
order. An update moves no row, a removal leaves the other rows in order, and a row
that is created comes last, whether or not there was one under its key before. -/
theorem rows_in_creationOrder (settings : Settings) (sorter : Sorter) (supply : Supply)
    (requests : List AdapterRequest) :
    let start : Adapter := { store := { settings, sorter } }
    let ended := Chronicle.runAll requests {} start supply
    let chronicle := ended.1
    let store := ended.2.1.store
    ended.2 = AdapterRequest.runAll requests start supply ∧
      chronicle.steps = requests.length ∧ chronicle.Tells store ∧
      (∀ spec : QuerySpec, spec.order = [] →
        let answered := spec.window.apply (store.found spec.entity spec.filters)
        (store.query spec).data =
            answered.map (fun (_, row) => Record.project store.settings spec.select row) ∧
          (Keyed.keys answered).Pairwise fun earlier later =>
            chronicle.tags spec.entity earlier < chronicle.tags spec.entity later) ∧
      (∀ spec now entity,
        ((store.update spec now).2.table entity).keys = (store.table entity).keys) ∧
      (∀ spec entity, ((store.delete spec).2.table entity).Sublist (store.table entity)) ∧
      ∀ spec unique now row, (store.create spec unique now).1 = .ok row →
        ∀ entity, (store.create spec unique now).2.table entity =
          if spec.entity = entity then
            store.table entity ++ [(Record.key store.settings row, row)]
          else store.table entity := by
  intro start ended chronicle store
  have empty : Chronicle.Tells {} start.store :=
    .of_closed (.empty _ _) rfl
  obtain ⟨steps, tells⟩ := empty.runAll requests rfl supply
  refine ⟨Chronicle.runAll_snd requests {} start supply, ?_, tells, ?_, ?_, ?_, ?_⟩
  · rw [← Nat.zero_add requests.length]
    exact steps
  · intro spec unordered answered
    refine ⟨store.data_query_of_unordered unordered, ?_⟩
    have kept : answered.Sublist (store.table spec.entity) :=
      (spec.window.apply_sublist _).trans List.filter_sublist
    exact (tells.present.ascending spec.entity).sublist (kept.map Prod.fst)
  · exact store.keys_update
  · exact store.sublist_delete
  · intro spec unique now row created entity
    obtain ⟨-, appended⟩ := store.create_of_ok created
    by_cases same : spec.entity = entity <;> simp [appended, same]

/-- Of two rows the first is deleted and created again, both in a transaction that is
rolled back and after it. In the end it comes last. -/
theorem rows_in_creationOrder_again :
    let create (id : String) : AdapterRequest := .data (.create ⟨"Item", [("id", .text id)]⟩)
    let remove : AdapterRequest :=
      .data (.delete ⟨"Item", [.condition ⟨⟨["id"]⟩, .eq, .text "a", none⟩]⟩)
    let requests := [create "a", create "b", .begin, remove, create "a", .rollback, create "c",
      remove, create "a"]
    let ended := Chronicle.runAll requests {} {} ⟨fun _ => "u", fun _ => "t", 0, 0⟩
    let store := ended.2.1.store
    (store.table "Item").keys = ["b", "c", "a"] ∧
      ["b", "c", "a"].map (ended.1.tags "Item") = [2, 7, 9] ∧ ended.1.Tells store := by
  intro create remove requests ended store
  obtain ⟨-, -, tells, -⟩ :=
    rows_in_creationOrder {} .placing ⟨fun _ => "u", fun _ => "t", 0, 0⟩ requests
  exact ⟨by decide +kernel, by decide +kernel, tells⟩

end RecordQuery
