import Mathlib.Data.List.Basic
import RecordQuery.Path

/-!
# Following joined paths

Following a path that is joined from two leads to the same places as following the
first one and going on along the second from each place that it reaches. This is
said for a relation, `Value.Leads`, with one rule for each kind of value that a walk
can meet; what the program reaches is the one list of places that the relation gives.
A walk fans out exactly where it meets a list with a segment still to take, and a
walk that does not fan out reaches a single place.
-/

namespace RecordQuery

variable {segment : String} {segments rest : List String} {value : Value} {fields : Record}
  {items : List Value} {leaves : List Leaf}

namespace Value

/-- The places, in order, to which segments lead from a value. A list is walked
through without taking a segment, and nothing lies behind a missing field or behind
a value that has no fields. -/
inductive Leads : List String → Value → List Leaf → Prop where
  | arrived (value : Value) : Leads [] value [some value]
  | field {segment : String} {rest : List String} {fields : Record} {value : Value}
      {leaves : List Leaf} : Keyed.get? fields segment = some value → Leads rest value leaves →
      Leads (segment :: rest) (.object fields) leaves
  | lost {segment : String} {rest : List String} {fields : Record} :
      Keyed.get? fields segment = none → Leads (segment :: rest) (.object fields) [none]
  | items {segment : String} {rest : List String} {items : List Value}
      {reached : Value → List Leaf} :
      (∀ item ∈ items, Leads (segment :: rest) item (reached item)) →
      Leads (segment :: rest) (.list items) (items.flatMap reached)
  | bare {segment : String} {rest : List String} {value : Value} : value.asRecord? = none →
      value.asList? = none → Leads (segment :: rest) value [none]

/-- Segments lead to a list while there is a segment still to take. -/
inductive MeetsList : List String → Value → Prop where
  | here {segment : String} {rest : List String} {items : List Value} :
      MeetsList (segment :: rest) (.list items)
  | further {segment : String} {rest : List String} {fields : Record} {value : Value} :
      Keyed.get? fields segment = some value → MeetsList rest value →
      MeetsList (segment :: rest) (.object fields)

/-! ## What the program reaches -/

theorem descendItems_eq_flatMap (segment : String) (next : Value → Reached) (items : List Value) :
    descendItems segment next items =
      items.flatMap fun item => (descend segment next item).leaves := by
  induction items with
  | nil => rfl
  | cons item rest ih => rw [descendItems, ih, List.flatMap_cons]

theorem leads_descend (onward : ∀ value : Value, value.Leads rest (reach rest value).leaves)
    (value : Value) :
    value.Leads (segment :: rest) (descend segment (reach rest) value).leaves := by
  -- The induction follows the items of nested lists, which take no segment.
  refine descend.induct segment
    (fun value => value.Leads (segment :: rest) (descend segment (reach rest) value).leaves)
    (fun items => ∀ item ∈ items,
      item.Leads (segment :: rest) (descend segment (reach rest) item).leaves)
    ?field ?lost ?items ?bare ?nil ?cons value
  case field =>
    intro fields value found
    rw [descend, found]
    exact .field found (onward value)
  case lost =>
    intro fields missing
    rw [descend, missing]
    exact .lost missing
  case items =>
    intro items ih
    rw [descend, descendItems_eq_flatMap]
    exact .items ih
  case bare =>
    intro value noRecord noList
    cases value with
    | object fields => exact absurd rfl (noRecord fields)
    | list items => exact absurd rfl (noList items)
    | _ => exact .bare rfl rfl
  case nil => exact List.forall_mem_nil _
  case cons => exact fun item rest first others => List.forall_mem_cons.2 ⟨first, others⟩

theorem leads_reach (segments : List String) (value : Value) :
    value.Leads segments (value.reach segments).leaves := by
  induction segments generalizing value with
  | nil => exact .arrived value
  | cons segment rest ih => exact leads_descend ih value

/-- Segments lead to the places that the program reaches, and to no others. -/
theorem Leads.eq_leaves_reach (leads : value.Leads segments leaves) :
    leaves = (value.reach segments).leaves := by
  induction leads with
  | arrived => rfl
  | field found _ ih => rw [ih, reach, descend, found]
  | lost missing => rw [reach, descend, missing]; rfl
  | items _ ih =>
      rw [reach, descend, descendItems_eq_flatMap]
      exact List.flatMap_congr ih
  | @bare _ _ value noRecord noList =>
      cases value with
      | object => cases noRecord
      | list => cases noList
      | _ => rfl

theorem meetsList_object_iff :
    MeetsList (segment :: rest) (.object fields) ↔
      ∃ value, Keyed.get? fields segment = some value ∧ value.MeetsList rest := by
  constructor
  · intro meets
    cases meets with
    | further found meets => exact ⟨_, found, meets⟩
  · rintro ⟨value, found, meets⟩
    exact .further found meets

/-- Reaching fans out exactly where a list is met. -/
theorem fanned_reach_iff : (value.reach segments).fanned ↔ value.MeetsList segments := by
  induction segments generalizing value with
  | nil => exact iff_of_false Bool.false_ne_true nofun
  | cons segment rest ih =>
      cases value with
      | object fields =>
          rw [reach, descend, meetsList_object_iff]
          cases Keyed.get? fields segment with
          | some value => simpa using ih
          | none => simp [Reached.single]
      | list items => exact iff_of_true rfl .here
      | _ => exact iff_of_false Bool.false_ne_true nofun

/-! ## Walks one after the other -/

/-- A walk goes on from every place that is not missing. -/
theorem Leads.append {suffix : List String} {onward : Value → List Leaf}
    (leads : value.Leads segments leaves)
    (further : ∀ value : Value, value.Leads suffix (onward value)) :
    value.Leads (segments ++ suffix) (leaves.flatMap fun leaf => leaf.elim [none] onward) := by
  induction leads with
  | arrived value => simpa using further value
  | field found _ ih => exact .field found ih
  | lost missing => exact .lost missing
  | items _ ih =>
      rw [List.flatMap_assoc]
      exact .items ih
  | bare noRecord noList => exact .bare noRecord noList

/-- A walk meets a list in its first part, or going on from a place that the first
part reaches. -/
theorem Leads.meetsList_append_iff {suffix : List String} (leads : value.Leads segments leaves) :
    value.MeetsList (segments ++ suffix) ↔
      value.MeetsList segments ∨ ∃ place, some place ∈ leaves ∧ place.MeetsList suffix := by
  induction leads with
  | arrived value =>
      have unmet : ¬MeetsList [] value := nofun
      simp [unmet]
  | field found _ ih => simpa [meetsList_object_iff, found] using ih
  | lost missing => simp [meetsList_object_iff, missing]
  | items => exact iff_of_true .here (.inl .here)
  | @bare _ _ value noRecord noList =>
      have unmet : ∀ segments : List String, ¬MeetsList segments value := by
        intro segments meets
        cases meets with
        | here => cases noList
        | further => cases noRecord
      simp [unmet]

/-- Without a list on the way there is one place. -/
theorem Leads.exists_single (leads : value.Leads segments leaves)
    (unmet : ¬value.MeetsList segments) : ∃ leaf, leaves = [leaf] := by
  induction leads with
  | arrived value => exact ⟨_, rfl⟩
  | field found _ ih => exact ih fun meets => unmet (.further found meets)
  | lost | bare => exact ⟨_, rfl⟩
  | items => exact absurd .here unmet

end Value

namespace Path

variable {path : Path} {row : Record}

/-- A path is followed from a record as from an object. -/
theorem resolve_eq_reach (nonempty : path.segments ≠ []) (row : Record) :
    path.resolve row = (Value.object row).reach path.segments := by
  obtain ⟨_ | ⟨first, rest⟩⟩ := path
  · exact absurd rfl nonempty
  · rfl

theorem exists_single_of_not_fanned (direct : ¬(path.resolve row).fanned) :
    ∃ leaf, (path.resolve row).leaves = [leaf] := by
  by_cases nonempty : path.segments = []
  · rw [resolve, nonempty]
    exact ⟨none, rfl⟩
  · rw [resolve_eq_reach nonempty] at direct ⊢
    exact (Value.leads_reach _ _).exists_single (mt Value.fanned_reach_iff.2 direct)

/-- A joined path leads on from each place that its first part reaches, in order. It
fans out if the first part does, or if going on from one of these places meets a list
with a segment still to take. A path that does not fan out reaches one place. -/
theorem resolve_join (row : Record) (path suffix : Path) :
    let first := path.resolve row
    let joined := (path.join suffix).resolve row
    (path.segments ≠ [] →
      (Value.object row).Leads path.segments first.leaves ∧
      (∃ onward : Value → List Leaf,
        (∀ value : Value, value.Leads suffix.segments (onward value)) ∧
        joined.leaves = first.leaves.flatMap fun leaf => leaf.elim [none] onward) ∧
      (joined.fanned ↔
        first.fanned ∨ ∃ value, some value ∈ first.leaves ∧ value.MeetsList suffix.segments)) ∧
    (¬first.fanned → ∃ leaf, first.leaves = [leaf]) := by
  intro first joined
  refine ⟨?_, exists_single_of_not_fanned⟩
  intro nonempty
  have joinedNonempty : (path.join suffix).segments ≠ [] :=
    List.append_ne_nil_of_left_ne_nil nonempty _
  have firstLeads : (Value.object row).Leads path.segments first.leaves := by
    rw [show first = _ from resolve_eq_reach nonempty row]
    exact Value.leads_reach _ _
  have joinedEq : joined = (Value.object row).reach (path.segments ++ suffix.segments) :=
    resolve_eq_reach joinedNonempty row
  refine ⟨firstLeads, ⟨fun value => (value.reach suffix.segments).leaves,
    Value.leads_reach suffix.segments, ?_⟩, ?_⟩
  · rw [joinedEq]
    exact (firstLeads.append (Value.leads_reach suffix.segments)).eq_leaves_reach.symm
  · rw [joinedEq, Value.fanned_reach_iff, firstLeads.meetsList_append_iff,
      ← Value.fanned_reach_iff, ← resolve_eq_reach nonempty row]

/-- A list is one place by itself. Going on into it reaches the items of a list
inside, misses the field of another item, and passes over an empty list. -/
theorem resolve_join_nestedList :
    let row : Record :=
      [("items", .list [.list [.object [("sku", .text "a")]], .object [], .list []])]
    let items : Path := ⟨["items"]⟩
    let reached := (items.join ⟨["sku"]⟩).resolve row
    (items.segments ≠ [] ∧ ¬(items.resolve row).fanned) ∧
      (∃ leaf, (items.resolve row).leaves = [leaf]) ∧
      reached.leaves = [some (.text "a"), none] ∧ reached.fanned := by
  intro row items reached
  have nonempty : items.segments ≠ [] := by decide
  have direct : ¬(items.resolve row).fanned := by decide
  obtain ⟨joined, alone⟩ := resolve_join row items ⟨["sku"]⟩
  obtain ⟨-, -, fans⟩ := joined nonempty
  have met : ∃ value, some value ∈ (items.resolve row).leaves ∧ value.MeetsList ["sku"] :=
    ⟨_, List.mem_singleton_self _, .here⟩
  exact ⟨⟨nonempty, direct⟩, alone direct, rfl, fans.2 (.inr met)⟩

end Path

end RecordQuery
