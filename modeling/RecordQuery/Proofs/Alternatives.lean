import RecordQuery.Proofs.FirstProblem

/-!
# Alternatives one by one and all at once

An alternative that is added to collected filters is grouped with the last filter, so
alternatives that are added one after the other nest to the left. The nested group
means the same as a flat one: it holds for the same rows, and its conditions are
looked at in the same order, so that checking it reports the same problem.
-/

namespace RecordQuery

namespace Filter

theorem allHold_append (row : Record) (first second : List Filter) :
    allHold row (first ++ second) = (allHold row first && allHold row second) := by
  induction first with
  | nil => rfl
  | cons filter rest ih => rw [List.cons_append, allHold, ih, allHold, Bool.and_assoc]

theorem allHold_iff {row : Record} {filters : List Filter} :
    allHold row filters ↔ ∀ filter ∈ filters, filter.holds row := by
  induction filters with
  | nil => simp [allHold]
  | cons filter rest ih => simp [allHold, ih]

/-! ## Groups of comparisons -/

theorem anyHolds_map_condition (row : Record) (comparisons : List Condition) :
    anyHolds row (comparisons.map condition) =
      comparisons.any fun comparison => comparison.holds row := by
  induction comparisons with
  | nil => rfl
  | cons comparison rest ih => rw [List.map_cons, anyHolds, ih, List.any_cons, holds]

theorem conditionsOf_map_condition (comparisons : List Condition) :
    conditionsOf (comparisons.map condition) = comparisons := by
  induction comparisons with
  | nil => rfl
  | cons comparison rest ih =>
      rw [List.map_cons, conditionsOf, conditions, ih, List.singleton_append]

/-- A filter with alternatives, each grouped with all that stands before it. -/
def orElse (first : Filter) (alternatives : List Condition) : Filter :=
  alternatives.foldl (fun nested alternative => .group .or [nested, .condition alternative]) first

theorem holds_orElse (row : Record) (first : Filter) (alternatives : List Condition) :
    (first.orElse alternatives).holds row =
      (first.holds row || alternatives.any fun alternative => alternative.holds row) := by
  induction alternatives generalizing first with
  | nil => exact (Bool.or_false _).symm
  | cons alternative rest ih =>
      have grouped : (group .or [first, .condition alternative]).holds row =
          (first.holds row || alternative.holds row) := by simp [holds, anyHolds]
      rw [orElse, List.foldl_cons, ← orElse, ih, grouped, List.any_cons, Bool.or_assoc]

theorem conditions_orElse (first : Filter) (alternatives : List Condition) :
    (first.orElse alternatives).conditions = first.conditions ++ alternatives := by
  induction alternatives generalizing first with
  | nil => exact (List.append_nil _).symm
  | cons alternative rest ih =>
      have grouped : (group .or [first, .condition alternative]).conditions =
          first.conditions ++ [alternative] := rfl
      rw [orElse, List.foldl_cons, ← orElse, ih, grouped, List.append_assoc, List.singleton_append]

end Filter

namespace FilterSet

/-- The last filter or a comparison must hold, where the comparison may have a
quantifier. -/
def orWith (set : FilterSet) (alternative : Condition) : FilterSet :=
  match set.filters.getLast? with
  | some last =>
      { set with filters := set.filters.dropLast ++ [.group .or [last, .condition alternative]] }
  | none => set.push (.condition alternative)

theorem orWith_push (set : FilterSet) (last : Filter) (alternative : Condition) :
    (set.push last).orWith alternative = set.push (.group .or [last, .condition alternative]) := by
  simp [orWith, push]

/-- Alternatives that are added one after the other nest to the left. -/
theorem foldl_orWith_push (set : FilterSet) (first : Filter) (alternatives : List Condition) :
    alternatives.foldl orWith (set.push first) = set.push (first.orElse alternatives) := by
  induction alternatives generalizing first with
  | nil => rfl
  | cons alternative rest ih =>
      rw [List.foldl_cons, orWith_push, ih]
      rfl

@[simp] theorem allHold_push (set : FilterSet) (filter : Filter) (row : Record) :
    Filter.allHold row (set.push filter).filters =
      (Filter.allHold row set.filters && filter.holds row) := by
  rw [push, Filter.allHold_append, Filter.allHold, Filter.allHold, Bool.and_true]

/-- Two collections of filters accept the same rows, and are checked alike: the same
conditions are looked at in the same order, and the same problem is found. -/
structure Equivalent (left right : FilterSet) : Prop where
  allHold : ∀ row, Filter.allHold row left.filters = Filter.allHold row right.filters
  conditionsOf : Filter.conditionsOf left.filters = Filter.conditionsOf right.filters
  filtersProblem? : ∀ rules : FieldRules,
    rules.filtersProblem? left.filters = rules.filtersProblem? right.filters
  problem? : ∀ rules, left.problem? rules = right.problem? rules

/-- The nested group of alternatives at the end can be made flat. -/
theorem equivalent_orGroup (set : FilterSet) (first : Filter) (alternatives : List Condition) :
    Equivalent (set.push (first.orElse alternatives))
      (set.orGroup (first :: alternatives.map .condition)) := by
  have holds : ∀ row, (first.orElse alternatives).holds row =
      (Filter.group .or (first :: alternatives.map .condition)).holds row := by
    intro row
    rw [Filter.holds_orElse, Filter.holds, Filter.anyHolds, Filter.anyHolds_map_condition]
  have conditions : Filter.conditionsOf (set.push (first.orElse alternatives)).filters =
      Filter.conditionsOf (set.orGroup (first :: alternatives.map .condition)).filters := by
    simp only [push, orGroup, Filter.conditionsOf_append, Filter.conditionsOf, Filter.conditions,
      Filter.conditions_orElse, Filter.conditionsOf_map_condition]
  have problem : ∀ rules : FieldRules,
      rules.filtersProblem? (set.push (first.orElse alternatives)).filters =
        rules.filtersProblem? (set.orGroup (first :: alternatives.map .condition)).filters := by
    intro rules
    rw [FieldRules.filtersProblem?, conditions, FieldRules.filtersProblem?]
  refine ⟨?_, conditions, problem, ?_⟩
  · intro row
    rw [orGroup, allHold_push, allHold_push, holds]
  · intro rules
    rw [problem?_eq_or, problem?_eq_or, problem]
    rfl

end FilterSet

/-- Alternatives that are added to a filter one by one make one filter with it, which
means the same as the flat group of them all. The filters before it stay, and all
that is asked of a row beyond them is that the filter or an alternative holds. Where
nothing was collected yet, the first alternative takes the place of the filter. -/
theorem alternatives_nested_eq_flat (set : FilterSet) (first : Filter)
    (alternatives : List Condition) :
    let nested := alternatives.foldl FilterSet.orWith (set.push first)
    (∀ (collected : FilterSet) field operator value,
      collected.orWhere field operator value = collected.orWith (.of field operator value)) ∧
    nested.filters.length = set.filters.length + 1 ∧
    nested.filters.take set.filters.length = set.filters ∧
    (∀ row, Filter.allHold row nested.filters ↔
      (∀ earlier ∈ set.filters, earlier.holds row) ∧
        (first.holds row ∨ ∃ alternative ∈ alternatives, alternative.holds row)) ∧
    nested.Equivalent (set.orGroup (first :: alternatives.map .condition)) ∧
    ∀ (misfit : Option ConditionFault) (comparison : Condition),
      let empty : FilterSet := { misfit }
      let alone := (comparison :: alternatives).foldl FilterSet.orWith empty
      alone.filters.length = 1 ∧
        (∀ row, Filter.allHold row alone.filters ↔
          ∃ alternative ∈ comparison :: alternatives, alternative.holds row) ∧
        alone.Equivalent (empty.orGroup ((comparison :: alternatives).map .condition)) := by
  intro nested
  have nested_eq : nested = set.push (first.orElse alternatives) :=
    set.foldl_orWith_push first alternatives
  refine ⟨fun _ _ _ _ => rfl, ?_, ?_, ?_, ?_, ?_⟩
  · rw [nested_eq]
    exact List.length_append
  · rw [nested_eq]
    exact List.take_left
  · intro row
    rw [nested_eq, FilterSet.allHold_push, Filter.holds_orElse, ← Filter.allHold_iff]
    simp
  · rw [nested_eq]
    exact set.equivalent_orGroup first alternatives
  · intro misfit comparison empty alone
    -- With nothing to be grouped with, the first alternative is pushed alone.
    have alone_eq : alone = empty.push ((Filter.condition comparison).orElse alternatives) :=
      empty.foldl_orWith_push (.condition comparison) alternatives
    rw [alone_eq]
    refine ⟨rfl, ?_, empty.equivalent_orGroup (.condition comparison) alternatives⟩
    intro row
    rw [FilterSet.allHold_push, Filter.holds_orElse]
    simp [Filter.allHold, Filter.holds, empty]

end RecordQuery
