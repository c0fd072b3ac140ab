import RecordQuery.Condition
import RecordQuery.Proofs.JoinedPaths

/-!
# Negated operators

Three operators ask for the contrary of three others. Over the places behind a path,
asking for the contrary everywhere is denying the plain question anywhere, and asking
for it anywhere is denying the plain question everywhere. Missing places are the
exception: they satisfy neither of two contrary operators, unless these ask for null.
-/

namespace RecordQuery

/-- The first operator asks for the contrary of the second, each with the given
value. A value that is not a list is neither in nor not in. -/
inductive Operator.Contrary : Operator → Operator → Value → Prop where
  | equality (value : Value) : Contrary .neq .eq value
  | membership (items : List Value) : Contrary .notIn .isIn (.list items)
  | nullity (value : Value) : Contrary .isNotNull .isNull value

namespace Condition

variable {path : Path} {negated operator : Operator} {value : Value} {row : Record}

/-! ## The two quantifiers -/

theorem holds_all_iff :
    holds ⟨path, operator, value, some .all⟩ row ↔
      ∀ leaf ∈ (path.resolve row).leaves, (of path operator value).matchesLeaf leaf :=
  List.all_eq_true

theorem holds_any_iff :
    holds ⟨path, operator, value, some .any⟩ row ↔
      ∃ leaf ∈ (path.resolve row).leaves, (of path operator value).matchesLeaf leaf :=
  List.any_eq_true

/-- Where a path reaches one place, its condition is one on that place. -/
theorem holds_of_single {leaf : Leaf} (single : (path.resolve row).leaves = [leaf])
    (operator : Operator) (value : Value) (quantifier : Option Quantifier) :
    holds ⟨path, operator, value, quantifier⟩ row = (of path operator value).matchesLeaf leaf := by
  rw [holds, single]
  rcases quantifier with _ | _ | _ <;> simp [matchesLeaf, of]

/-! ## Contrary operators -/

theorem matchesValue_contrary (contrary : negated.Contrary operator value) (field : Value) :
    matchesValue negated value field = !matchesValue operator value field := by
  cases contrary with
  | equality | nullity => rfl
  | membership items => simp [matchesValue, listed?, Value.asList?]

/-- Contrary operators give contrary answers for every place that is there, and for a
missing one where they ask for null. -/
theorem matchesLeaf_contrary (contrary : negated.Contrary operator value) {leaf : Leaf}
    (asked : leaf ≠ none ∨ operator = .isNull) :
    (of path negated value).matchesLeaf leaf ↔ ¬(of path operator value).matchesLeaf leaf := by
  cases leaf with
  | some field =>
      show matchesValue negated value field ↔ ¬matchesValue operator value field
      simp [matchesValue_contrary contrary]
  | none =>
      obtain rfl := asked.resolve_left (absurd rfl)
      cases contrary
      simp [matchesLeaf, of]

/-- Where no place is missing, or the question is for null, the contrary turns the
quantifier around. -/
theorem holds_contrary (contrary : negated.Contrary operator value)
    (asked : none ∉ (path.resolve row).leaves ∨ operator = .isNull) :
    (holds ⟨path, negated, value, some .all⟩ row ↔
        ¬holds ⟨path, operator, value, some .any⟩ row) ∧
      (holds ⟨path, negated, value, some .any⟩ row ↔
        ¬holds ⟨path, operator, value, some .all⟩ row) := by
  have opposite : ∀ leaf ∈ (path.resolve row).leaves,
      ((of path negated value).matchesLeaf leaf ↔ ¬(of path operator value).matchesLeaf leaf) := by
    intro leaf member
    apply matchesLeaf_contrary contrary
    exact asked.imp_left fun present missing => present (missing ▸ member)
  simp only [holds_all_iff, holds_any_iff, not_exists, not_and, not_forall, exists_prop]
  exact ⟨forall₂_congr opposite, exists_congr fun leaf => and_congr_right (opposite leaf)⟩

/-- No contrary operator holds for a missing place. -/
theorem holds_all_contrary_iff (contrary : negated.Contrary operator value) :
    holds ⟨path, negated, value, some .all⟩ row ↔
      ¬holds ⟨path, operator, value, some .any⟩ row ∧ none ∉ (path.resolve row).leaves := by
  have complete : holds ⟨path, negated, value, some .all⟩ row →
      none ∉ (path.resolve row).leaves := by
    intro everywhere missing
    have held := holds_all_iff.1 everywhere none missing
    cases contrary <;> cases held
  constructor
  · intro everywhere
    have present := complete everywhere
    exact ⟨(holds_contrary contrary (.inl present)).1.1 everywhere, present⟩
  · rintro ⟨nowhere, present⟩
    exact (holds_contrary contrary (.inl present)).1.2 nowhere

/-- Asking for the contrary everywhere is denying the plain question anywhere, where
no place is missing, and without missing places the quantifiers can be exchanged. A
path that does not fan out has one place to ask of, whatever the quantifier, and no
quantifier asks for any place. -/
theorem negation_dual (row : Record) (path : Path) (value : Value) (listed : List Value) :
    let reached := path.resolve row
    let asks := fun (operator : Operator) (value : Value) (quantifier : Option Quantifier) =>
      (⟨path, operator, value, quantifier⟩ : Condition).holds row
    (asks .neq value (some .all) ↔ ¬asks .eq value (some .any) ∧ none ∉ reached.leaves) ∧
    (asks .notIn (.list listed) (some .all) ↔
      ¬asks .isIn (.list listed) (some .any) ∧ none ∉ reached.leaves) ∧
    (asks .isNotNull value (some .all) ↔ ¬asks .isNull value (some .any)) ∧
    (none ∉ reached.leaves →
      (asks .neq value (some .any) ↔ ¬asks .eq value (some .all)) ∧
      (asks .notIn (.list listed) (some .any) ↔ ¬asks .isIn (.list listed) (some .all)) ∧
      (asks .isNotNull value (some .any) ↔ ¬asks .isNull value (some .all))) ∧
    (¬reached.fanned → ∃ leaf, reached.leaves = [leaf] ∧
      ∀ operator value quantifier,
        asks operator value quantifier = (of path operator value).matchesLeaf leaf) ∧
    ∀ operator value, asks operator value none = asks operator value (some .any) := by
  intro reached asks
  have nullity : (asks .isNotNull value (some .all) ↔ ¬asks .isNull value (some .any)) ∧
      (asks .isNotNull value (some .any) ↔ ¬asks .isNull value (some .all)) :=
    holds_contrary (.nullity value) (.inr rfl)
  refine ⟨holds_all_contrary_iff (.equality value), holds_all_contrary_iff (.membership listed),
    nullity.1, ?exchanged, ?single, fun _ _ => rfl⟩
  case exchanged =>
    intro present
    exact ⟨(holds_contrary (.equality value) (.inl present)).2,
      (holds_contrary (.membership listed) (.inl present)).2, nullity.2⟩
  case single =>
    intro direct
    obtain ⟨leaf, alone⟩ := Path.exists_single_of_not_fanned direct
    exact ⟨leaf, alone, holds_of_single alone⟩

/-- Of two items one differs from 1 and one is not null, since not all equal 1 and not
all are null. A title is one place. -/
theorem negation_dual_items :
    let row : Record :=
      [("title", .text "t"),
        ("items", .list [.object [("n", .number (.int 1))], .object [("n", .null)]])]
    let items : Path := ⟨["items", "n"]⟩
    let title : Path := ⟨["title"]⟩
    (none ∉ (items.resolve row).leaves ∧ ¬(title.resolve row).fanned) ∧
      holds ⟨items, .neq, .number (.int 1), some .any⟩ row ∧
      holds ⟨items, .isNotNull, .null, some .any⟩ row ∧
      ∃ leaf, (title.resolve row).leaves = [leaf] := by
  intro row items title
  have present : none ∉ (items.resolve row).leaves := by decide
  have direct : ¬(title.resolve row).fanned := by decide
  obtain ⟨-, -, -, compared, -, -⟩ := negation_dual row items (.number (.int 1)) []
  obtain ⟨-, -, -, asked, -, -⟩ := negation_dual row items .null []
  obtain ⟨-, -, -, -, single, -⟩ := negation_dual row title .null []
  obtain ⟨leaf, alone, -⟩ := single direct
  have notAllOne : ¬holds ⟨items, .eq, .number (.int 1), some .all⟩ row := by decide
  have notAllNull : ¬holds ⟨items, .isNull, .null, some .all⟩ row := by decide
  exact ⟨⟨present, direct⟩, (compared present).1.2 notAllOne, (asked present).2.2.2 notAllNull,
    leaf, alone⟩

end Condition

end RecordQuery
