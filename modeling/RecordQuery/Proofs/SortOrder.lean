import RecordQuery.Proofs.Rounding
import RecordQuery.Sorting

/-!
# How far sorting has a consistent order

Comparing rows the other way round turns the answer around. Rows in a row need
not stay in order, though: integers are compared exactly with each other and by
their rounded values with floats, so a float ties with every integer that rounds
to it while these integers differ among themselves. This module says precisely
for which three rows the comparison fails to be transitive, and that nothing else
than such a float is ever the reason.
-/

namespace RecordQuery

/-- Elements of a consistent order that follow each other in a circle tie. -/
theorem compare_circle {α : Type} [Ord α] [Std.TransOrd α] {first second third : α}
    (firstLe : (compare first second).isLE) (secondLe : (compare second third).isLE)
    (thirdLe : (compare third first).isLE) :
    compare first second = .eq ∧ compare second third = .eq ∧ compare third first = .eq :=
  ⟨Std.OrientedCmp.isLE_antisymm firstLe (Std.TransCmp.isLE_trans secondLe thirdLe),
    Std.OrientedCmp.isLE_antisymm secondLe (Std.TransCmp.isLE_trans thirdLe firstLe),
    Std.OrientedCmp.isLE_antisymm thirdLe (Std.TransCmp.isLE_trans firstLe secondLe)⟩

namespace Number

/-- Three numbers that follow each other in a circle are all equal, unless one of
them is a float that hides the difference of the two others. -/
theorem order_circle {first second third : Number} (firstLe : (first.order second).isLE)
    (secondLe : (second.order third).isLE) (thirdLe : (third.order first).isLE) :
    (first.order second = .eq ∧ second.order third = .eq ∧ third.order first = .eq) ∨
      ∃ left right float, float.Hides left right ∧
        ((first = .int left ∧ second = .int right ∧ third = .float float) ∨
          (second = .int left ∧ third = .int right ∧ first = .float float) ∨
          (third = .int left ∧ first = .int right ∧ second = .float float)) := by
  have firstRank := rank_le_of_order firstLe
  have secondRank := rank_le_of_order secondLe
  have thirdRank := rank_le_of_order thirdLe
  have sameSecond : second.rank = first.rank := by omega
  have sameThird : third.rank = first.rank := by omega
  cases first with
  | int first =>
      cases second with
      | int second =>
          cases third with
          | int third =>
              simp only [order, Int.isLE_compare, Int.compare_eq_eq] at *
              omega
          | float third =>
              by_cases same : first = second
              · simp [order, same, sameSecond, sameThird]
              · exact .inr ⟨first, second, third,
                  Double.hides_iff.2 ⟨same, sameThird.symm, sameSecond.trans sameThird.symm⟩,
                  .inl ⟨rfl, rfl, rfl⟩⟩
      | float second =>
          cases third with
          | int third =>
              by_cases same : third = first
              · simp [order, same, sameSecond]
              · exact .inr ⟨third, first, second,
                  Double.hides_iff.2 ⟨same, sameThird.trans sameSecond.symm, sameSecond.symm⟩,
                  .inr (.inr ⟨rfl, rfl, rfl⟩)⟩
          | float third => simp [order, sameSecond, sameThird]
  | float first =>
      cases second with
      | int second =>
          cases third with
          | int third =>
              by_cases same : second = third
              · simp [order, same, sameThird]
              · exact .inr ⟨second, third, first,
                  Double.hides_iff.2 ⟨same, sameSecond, sameThird⟩,
                  .inr (.inl ⟨rfl, rfl, rfl⟩)⟩
          | float third => simp [order, sameSecond, sameThird]
      | float second => cases third <;> simp [order, sameSecond, sameThird]

end Number

namespace Leaf

/-- The rank of a sort key's kind. Nothing ranks with null. -/
def kindRank : Leaf → Nat
  | none => 5
  | some value => value.kindRank

@[simp] theorem compareKeys_number (left right : Number) :
    compareKeys (some (.number left)) (some (.number right)) = left.order right := by
  simp [compareKeys, Value.comparePresent, Number.compare?_eq]

theorem compareKeys_swap (left right : Leaf) :
    right.compareKeys left = (left.compareKeys right).swap := by
  rcases left with _ | left <;> rcases right with _ | right
  · rfl
  · cases right <;> rfl
  · cases left <;> rfl
  · cases left with
    | number left =>
        cases right with
        | number right => simpa using Number.order_swap left right
        | _ => rfl
    | text left =>
        cases right with
        | text right => exact Std.OrientedOrd.eq_swap
        | _ => rfl
    | bool left =>
        cases right with
        | bool right => exact Std.OrientedOrd.eq_swap
        | _ => rfl
    | _ => cases right <;> rfl

/-- Keys of different kinds follow the ranks of their kinds. -/
theorem kindRank_le_of_compareKeys {left right : Leaf} (le : (left.compareKeys right).isLE) :
    left.kindRank ≤ right.kindRank := by
  -- A pair of kinds in the wrong order compares as greater, so `le` has no case.
  rcases left with _ | left <;> rcases right with _ | right
  · exact Nat.le_refl _
  · cases right <;> first | exact Nat.le_of_ble_eq_true rfl | cases le
  · cases left <;> exact Nat.le_of_ble_eq_true rfl
  · cases left <;> cases right <;> first | exact Nat.le_of_ble_eq_true rfl | cases le

/-- Keys of one kind tie if the kind is not ordered within. -/
theorem compareKeys_eq_of_kindRank {left right : Leaf} (same : left.kindRank = right.kindRank)
    (unordered : 3 ≤ left.kindRank) : left.compareKeys right = .eq := by
  rcases left with _ | left <;> rcases right with _ | right
  · rfl
  · cases right <;> first | rfl | cases same
  · cases left <;> first | rfl | cases same
  · cases left with
    | bool | number | text => exact absurd unordered (by simp [kindRank, Value.kindRank])
    | _ => cases right <;> first | rfl | cases same

theorem eq_bool_of_kindRank {leaf : Leaf} (kind : leaf.kindRank = 0) :
    ∃ value, leaf = some (.bool value) := by
  rcases leaf with _ | value
  · cases kind
  · cases value <;> first | exact ⟨_, rfl⟩ | cases kind

theorem eq_number_of_kindRank {leaf : Leaf} (kind : leaf.kindRank = 1) :
    ∃ value, leaf = some (.number value) := by
  rcases leaf with _ | value
  · cases kind
  · cases value <;> first | exact ⟨_, rfl⟩ | cases kind

theorem eq_text_of_kindRank {leaf : Leaf} (kind : leaf.kindRank = 2) :
    ∃ value, leaf = some (.text value) := by
  rcases leaf with _ | value
  · cases kind
  · cases value <;> first | exact ⟨_, rfl⟩ | cases kind

/-- Two keys are different integers, and a third one is the float that both of
them round to. -/
def Blurred (left right middle : Leaf) : Prop :=
  ∃ (low high : Int) (float : Double), left = some (.number (.int low)) ∧
    right = some (.number (.int high)) ∧ middle = some (.number (.float float)) ∧
    float.Hides low high

/-- Keys that follow each other in a circle tie, unless two of them are integers
whose difference the third one hides. -/
theorem compareKeys_circle {first second third : Leaf}
    (firstLe : (first.compareKeys second).isLE) (secondLe : (second.compareKeys third).isLE)
    (thirdLe : (third.compareKeys first).isLE) :
    (first.compareKeys second = .eq ∧ second.compareKeys third = .eq ∧
        third.compareKeys first = .eq) ∨
      Blurred first second third ∨ Blurred second third first ∨ Blurred third first second := by
  have firstKind := kindRank_le_of_compareKeys firstLe
  have secondKind := kindRank_le_of_compareKeys secondLe
  have thirdKind := kindRank_le_of_compareKeys thirdLe
  have sameSecond : first.kindRank = second.kindRank := by omega
  have sameThird : second.kindRank = third.kindRank := by omega
  rcases Nat.lt_or_ge first.kindRank 3 with ordered | unordered
  · rcases kind : first.kindRank with _ | _ | _ | _
    · obtain ⟨first, rfl⟩ := eq_bool_of_kindRank kind
      obtain ⟨second, rfl⟩ := eq_bool_of_kindRank (sameSecond ▸ kind)
      obtain ⟨third, rfl⟩ := eq_bool_of_kindRank (sameThird ▸ sameSecond ▸ kind)
      exact .inl (compare_circle firstLe secondLe thirdLe)
    · obtain ⟨first, rfl⟩ := eq_number_of_kindRank kind
      obtain ⟨second, rfl⟩ := eq_number_of_kindRank (sameSecond ▸ kind)
      obtain ⟨third, rfl⟩ := eq_number_of_kindRank (sameThird ▸ sameSecond ▸ kind)
      simp only [compareKeys_number] at *
      rcases Number.order_circle firstLe secondLe thirdLe with
        tied | ⟨low, high, float, hides, circle⟩
      · exact .inl tied
      · rcases circle with ⟨rfl, rfl, rfl⟩ | ⟨rfl, rfl, rfl⟩ | ⟨rfl, rfl, rfl⟩
        · exact .inr (.inl ⟨low, high, float, rfl, rfl, rfl, hides⟩)
        · exact .inr (.inr (.inl ⟨low, high, float, rfl, rfl, rfl, hides⟩))
        · exact .inr (.inr (.inr ⟨low, high, float, rfl, rfl, rfl, hides⟩))
    · obtain ⟨first, rfl⟩ := eq_text_of_kindRank kind
      obtain ⟨second, rfl⟩ := eq_text_of_kindRank (sameSecond ▸ kind)
      obtain ⟨third, rfl⟩ := eq_text_of_kindRank (sameThird ▸ sameSecond ▸ kind)
      exact .inl (compare_circle firstLe secondLe thirdLe)
    · omega
  · exact .inl ⟨compareKeys_eq_of_kindRank sameSecond unordered,
      compareKeys_eq_of_kindRank sameThird (sameSecond ▸ unordered),
      compareKeys_eq_of_kindRank (sameSecond.trans sameThird).symm
        (sameThird ▸ sameSecond ▸ unordered)⟩

theorem Blurred.symm {left right middle : Leaf} (blurred : Blurred left right middle) :
    Blurred right left middle := by
  obtain ⟨low, high, float, leftKey, rightKey, middleKey, apart, lowRounded, highRounded⟩ := blurred
  exact ⟨high, low, float, rightKey, leftKey, middleKey, apart.symm, highRounded, lowRounded⟩

/-- The two integers differ in order, and the float ties with each. -/
theorem Blurred.compareKeys {left right middle : Leaf} (blurred : Blurred left right middle) :
    left.compareKeys right ≠ .eq ∧ right.compareKeys middle = .eq ∧
      middle.compareKeys left = .eq := by
  obtain ⟨low, high, float, rfl, rfl, rfl, hides⟩ := blurred
  obtain ⟨apart, lowRank, highRank⟩ := Double.hides_iff.1 hides
  simp [Number.order, apart, lowRank, highRank]

end Leaf

namespace OrderClause

/-- The sort key of a row. -/
def key (clause : OrderClause) (row : Record) : Leaf := (clause.field.resolve row).sortKey

theorem compareRows_swap (clause : OrderClause) (left right : Record) :
    clause.compareRows right left = (clause.compareRows left right).swap := by
  have turned := Leaf.compareKeys_swap (clause.key left) (clause.key right)
  obtain ⟨field, direction⟩ := clause
  cases direction with
  | ascending => exact turned
  | descending => exact congrArg Ordering.swap turned

/-- Both directions tie the same rows. -/
theorem compareRows_eq_iff {clause : OrderClause} {left right : Record} :
    clause.compareRows left right = .eq ↔
      (clause.key left).compareKeys (clause.key right) = .eq := by
  obtain ⟨field, direction⟩ := clause
  cases direction with
  | ascending => rfl
  | descending => exact Ordering.swap_eq_eq

/-- A clause puts one integer before another, and does not tell either from the
float under the third row, to which both are rounded. -/
def Splits (clause : OrderClause) (first second third : Record) : Prop :=
  clause.compareRows first second = .lt ∧
    (clause.key first).Blurred (clause.key second) (clause.key third)

theorem splits_of_blurred {clause : OrderClause} {first second third : Record}
    (le : (clause.compareRows first second).isLE)
    (blurred : (clause.key first).Blurred (clause.key second) (clause.key third)) :
    clause.Splits first second third := by
  refine ⟨?_, blurred⟩
  have apart := mt compareRows_eq_iff.1 blurred.compareKeys.1
  cases answer : clause.compareRows first second with
  | lt => rfl
  | eq => exact absurd answer apart
  | gt => simp [answer] at le

theorem Splits.ties {clause : OrderClause} {first second third : Record}
    (splits : clause.Splits first second third) :
    clause.compareRows second third = .eq ∧ clause.compareRows third first = .eq :=
  ⟨compareRows_eq_iff.2 splits.2.compareKeys.2.1, compareRows_eq_iff.2 splits.2.compareKeys.2.2⟩

/-- Rows that follow each other in a circle tie, unless the clause splits them. -/
theorem compareRows_circle {clause : OrderClause} {first second third : Record}
    (firstLe : (clause.compareRows first second).isLE)
    (secondLe : (clause.compareRows second third).isLE)
    (thirdLe : (clause.compareRows third first).isLE) :
    (clause.compareRows first second = .eq ∧ clause.compareRows second third = .eq ∧
        clause.compareRows third first = .eq) ∨
      clause.Splits first second third ∨ clause.Splits second third first ∨
        clause.Splits third first second := by
  have keys : ((clause.key first).compareKeys (clause.key second) = .eq ∧
      (clause.key second).compareKeys (clause.key third) = .eq ∧
        (clause.key third).compareKeys (clause.key first) = .eq) ∨
      (clause.key first).Blurred (clause.key second) (clause.key third) ∨
        (clause.key second).Blurred (clause.key third) (clause.key first) ∨
          (clause.key third).Blurred (clause.key first) (clause.key second) := by
    obtain ⟨field, direction⟩ := clause
    cases direction with
    | ascending => exact Leaf.compareKeys_circle firstLe secondLe thirdLe
    | descending =>
        -- The keys go round the same circle the other way.
        simp only [compareRows, Direction.apply, ← Leaf.compareKeys_swap]
          at firstLe secondLe thirdLe
        rcases Leaf.compareKeys_circle thirdLe secondLe firstLe with
          ⟨thirdTies, secondTies, firstTies⟩ | blurred | blurred | blurred
        · refine .inl ⟨?_, ?_, ?_⟩ <;> rw [Leaf.compareKeys_swap] <;> simpa [key]
        · exact .inr (.inr (.inr blurred.symm))
        · exact .inr (.inr (.inl blurred.symm))
        · exact .inr (.inl blurred.symm)
  rcases keys with ⟨firstTies, secondTies, thirdTies⟩ | blurred | blurred | blurred
  · exact .inl ⟨compareRows_eq_iff.2 firstTies, compareRows_eq_iff.2 secondTies,
      compareRows_eq_iff.2 thirdTies⟩
  · exact .inr (.inl (splits_of_blurred firstLe blurred))
  · exact .inr (.inr (.inl (splits_of_blurred secondLe blurred)))
  · exact .inr (.inr (.inr (splits_of_blurred thirdLe blurred)))

end OrderClause

theorem compareRows_swap (clauses : List OrderClause) (left right : Record) :
    compareRows clauses right left = (compareRows clauses left right).swap := by
  induction clauses with
  | nil => rfl
  | cons clause rest ih =>
      rw [compareRows, compareRows, Ordering.swap_then, ih, clause.compareRows_swap left right]

/-- Three rows of which the clauses leave the first before or with the second,
and the second before or with the third, but put the third before the first. The
clauses in front tie all three rows. At the deciding clause two rows hold different
integers and the remaining one the float that both round to, and the clauses
behind decide the comparisons with that float. -/
inductive Misordered : List OrderClause → Record → Record → Record → Prop where
  | tied {clause : OrderClause} {rest : List OrderClause} {first second third : Record} :
      clause.compareRows first second = .eq → clause.compareRows second third = .eq →
        clause.compareRows third first = .eq → Misordered rest first second third →
          Misordered (clause :: rest) first second third
  | floatSecond {clause : OrderClause} {rest : List OrderClause} {first second third : Record} :
      clause.Splits third first second → (compareRows rest first second).isLE →
        (compareRows rest second third).isLE → Misordered (clause :: rest) first second third
  | floatThird {clause : OrderClause} {rest : List OrderClause} {first second third : Record} :
      clause.Splits first second third → (compareRows rest second third).isLE →
        compareRows rest third first = .lt → Misordered (clause :: rest) first second third
  | floatFirst {clause : OrderClause} {rest : List OrderClause} {first second third : Record} :
      clause.Splits second third first → (compareRows rest first second).isLE →
        compareRows rest third first = .lt → Misordered (clause :: rest) first second third

theorem misordered_iff {clauses : List OrderClause} {first second third : Record} :
    Misordered clauses first second third ↔
      (compareRows clauses first second).isLE ∧ (compareRows clauses second third).isLE ∧
        compareRows clauses third first = .lt := by
  constructor
  · intro misordered
    induction misordered with
    | tied firstTies secondTies thirdTies _ ih =>
        simpa [compareRows, firstTies, secondTies, thirdTies] using ih
    | floatSecond splits firstLe secondLe =>
        obtain ⟨firstTies, secondTies⟩ := splits.ties
        simp [compareRows, firstTies, secondTies, splits.1, firstLe, secondLe]
    | floatThird splits secondLe thirdLt =>
        obtain ⟨secondTies, thirdTies⟩ := splits.ties
        simp [compareRows, secondTies, thirdTies, splits.1, secondLe, thirdLt]
    | floatFirst splits firstLe thirdLt =>
        obtain ⟨thirdTies, firstTies⟩ := splits.ties
        simp [compareRows, firstTies, thirdTies, splits.1, firstLe, thirdLt]
  · rintro ⟨firstLe, secondLe, thirdLt⟩
    induction clauses with
    | nil => cases thirdLt
    | cons clause rest ih =>
        simp only [compareRows] at firstLe secondLe thirdLt
        have firstHere := Ordering.isLE_left_of_isLE_then firstLe
        have secondHere := Ordering.isLE_left_of_isLE_then secondLe
        have thirdHere : (clause.compareRows third first).isLE :=
          Ordering.isLE_left_of_isLE_then (by rw [thirdLt]; rfl)
        rcases OrderClause.compareRows_circle firstHere secondHere thirdHere with
          ⟨firstTies, secondTies, thirdTies⟩ | splits | splits | splits
        · simp only [firstTies, secondTies, thirdTies, Ordering.eq_then] at firstLe secondLe thirdLt
          exact .tied firstTies secondTies thirdTies (ih firstLe secondLe thirdLt)
        · obtain ⟨secondTies, thirdTies⟩ := splits.ties
          simp only [secondTies, thirdTies, Ordering.eq_then] at secondLe thirdLt
          exact .floatThird splits secondLe thirdLt
        · obtain ⟨thirdTies, firstTies⟩ := splits.ties
          simp only [thirdTies, firstTies, Ordering.eq_then] at firstLe thirdLt
          exact .floatFirst splits firstLe thirdLt
        · obtain ⟨firstTies, secondTies⟩ := splits.ties
          simp only [firstTies, secondTies, Ordering.eq_then] at firstLe secondLe
          exact .floatSecond splits firstLe secondLe

/-- Comparing rows is a total preorder up to one exception. Turning a comparison
around turns its answer around, and rows in order stay in order exactly when no
clause that decides about them meets a float between two integers that round to
it. -/
theorem compareRows_trans_iff (clauses : List OrderClause) (first second third : Record) :
    compareRows clauses second first = (compareRows clauses first second).swap ∧
      (((compareRows clauses first second).isLE → (compareRows clauses second third).isLE →
          (compareRows clauses first third).isLE) ↔
        ¬Misordered clauses first second third) := by
  refine ⟨compareRows_swap clauses first second, ?_⟩
  have turned := compareRows_swap clauses first third
  rw [misordered_iff]
  constructor
  · rintro transitive ⟨firstLe, secondLe, thirdLt⟩
    have kept := transitive firstLe secondLe
    cases answer : compareRows clauses first third <;> simp_all
  · intro ordered firstLe secondLe
    cases answer : compareRows clauses first third with
    | gt => exact absurd ⟨firstLe, secondLe, by rw [turned, answer]; rfl⟩ ordered
    | _ => rfl

/-- The exception occurs: `2 ^ 53 + 1` and `2 ^ 53` differ as integers, and the
float `2 ^ 53` ties with both. -/
theorem not_compareRows_trans :
    ¬∀ (clauses : List OrderClause) (first second third : Record),
      (compareRows clauses first second).isLE → (compareRows clauses second third).isLE →
        (compareRows clauses first third).isLE := by
  intro transitive
  have kept := transitive [⟨⟨["n"]⟩, .ascending⟩]
    [("n", .number (.int 9007199254740993))]
    [("n", .number (.float ⟨false, ⟨0x4340000000000000, by decide⟩⟩))]
    [("n", .number (.int 9007199254740992))] (by decide +kernel) (by decide +kernel)
  exact absurd kept (by decide +kernel)

end RecordQuery
