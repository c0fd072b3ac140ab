import RecordQuery.Proofs.Negation

/-!
# Ranges and their bounds

Asking whether a place lies within a range is asking for both bounds at that place, also
where texts are compared with numbers or values cannot be compared at all. Over several
places the quantifier decides: every place is in the range if every one satisfies each
bound, but one place may satisfy the lower bound and another one the upper.
-/

namespace RecordQuery.Condition

variable {path : Path} {low high : Value} {row : Record}

/-! ## One place -/

/-- The bounds are compared as the two operators compare: a bound that cannot be compared
with the value is not kept. -/
theorem matchesValue_between (low high field : Value) :
    matchesValue .between (.list [low, high]) field =
      (matchesValue .gte low field && matchesValue .lte high field) := rfl

theorem matchesLeaf_between_iff {leaf : Leaf} :
    (of path .between (.list [low, high])).matchesLeaf leaf ↔
      (of path .gte low).matchesLeaf leaf ∧ (of path .lte high).matchesLeaf leaf := by
  cases leaf with
  | none => exact iff_of_false nofun nofun
  | some field =>
      show matchesValue .between (.list [low, high]) field ↔ _
      rw [matchesValue_between, Bool.and_eq_true]
      rfl

/-! ## The places behind a path -/

theorem holds_all_between_iff :
    holds ⟨path, .between, .list [low, high], some .all⟩ row ↔
      holds ⟨path, .gte, low, some .all⟩ row ∧ holds ⟨path, .lte, high, some .all⟩ row := by
  simp only [holds_all_iff, matchesLeaf_between_iff]
  exact forall₂_and

theorem holds_any_between_iff :
    holds ⟨path, .between, .list [low, high], some .any⟩ row ↔
      ∃ leaf ∈ (path.resolve row).leaves,
        (of path .gte low).matchesLeaf leaf ∧ (of path .lte high).matchesLeaf leaf := by
  simp only [holds_any_iff, matchesLeaf_between_iff]

/-- Where a path reaches one place at most, both bounds are kept at the same place. -/
theorem holds_any_between_of_bounds (reaches : (path.resolve row).leaves.length ≤ 1)
    (above : holds ⟨path, .gte, low, some .any⟩ row)
    (below : holds ⟨path, .lte, high, some .any⟩ row) :
    holds ⟨path, .between, .list [low, high], some .any⟩ row := by
  rcases Nat.le_one_iff_eq_zero_or_eq_one.1 reaches with none | one
  · obtain ⟨leaf, reached, _⟩ := holds_any_iff.1 above
    rw [List.length_eq_zero_iff.1 none] at reached
    cases reached
  · obtain ⟨leaf, alone⟩ := List.length_eq_one_iff.1 one
    rw [holds_of_single alone] at above below ⊢
    exact matchesLeaf_between_iff.2 ⟨above, below⟩

/-- A range asks the same as its two bounds when it is asked of every place. Asked of any
place it asks for both bounds, and no more than that where a path reaches one place at
most. A condition without a quantifier asks for any place. -/
theorem between_asks_bounds (row : Record) (path : Path) (low high : Value) :
    let range := Value.list [low, high]
    let asks := fun (operator : Operator) (value : Value) (quantifier : Option Quantifier) =>
      (⟨path, operator, value, quantifier⟩ : Condition).holds row
    (asks .between range (some .all) ↔ asks .gte low (some .all) ∧ asks .lte high (some .all)) ∧
      (asks .between range (some .any) →
        asks .gte low (some .any) ∧ asks .lte high (some .any)) ∧
      ((path.resolve row).leaves.length ≤ 1 → asks .gte low (some .any) →
        asks .lte high (some .any) → asks .between range (some .any)) ∧
      ∀ operator value, asks operator value none = asks operator value (some .any) := by
  intro range asks
  refine ⟨holds_all_between_iff, ?_, holds_any_between_of_bounds, fun _ _ => rfl⟩
  intro within
  obtain ⟨leaf, reached, above, below⟩ := holds_any_between_iff.1 within
  exact ⟨holds_any_iff.2 ⟨leaf, reached, above⟩, holds_any_iff.2 ⟨leaf, reached, below⟩⟩

/-- A text that spells a number lies between two numbers, because it is at one place. -/
theorem between_asks_bounds_text :
    let row : Record := [("size", .text " 5.0 ")]
    let size : Path := ⟨["size"]⟩
    let low := Value.number (.int 5)
    let high := Value.number (.int 7)
    (size.resolve row).leaves.length ≤ 1 ∧ holds ⟨size, .gte, low, some .any⟩ row ∧
      holds ⟨size, .lte, high, some .any⟩ row ∧
      holds ⟨size, .between, .list [low, high], some .any⟩ row := by
  intro row size low high
  have one : (size.resolve row).leaves.length ≤ 1 := by decide
  have above : holds ⟨size, .gte, low, some .any⟩ row := by decide +kernel
  have below : holds ⟨size, .lte, high, some .any⟩ row := by decide +kernel
  obtain ⟨_, _, converse, _⟩ := between_asks_bounds row size low high
  exact ⟨one, above, below, converse one above below⟩

-- Of two places one may keep the lower bound and the other one the upper.
example :
    let row : Record :=
      [("items", .list [.object [("n", .number (.int 1))], .object [("n", .number (.int 9))]])]
    let path : Path := ⟨["items", "n"]⟩
    let low := Value.number (.int 4)
    let high := Value.number (.int 6)
    holds ⟨path, .gte, low, some .any⟩ row ∧ holds ⟨path, .lte, high, some .any⟩ row ∧
      ¬holds ⟨path, .between, .list [low, high], some .any⟩ row := by
  decide

end RecordQuery.Condition
