import RecordQuery.Number.Word
import RecordQuery.Proofs.JoinedPaths
import RecordQuery.Proofs.Negation
import RecordQuery.Proofs.ValueEquality

/-!
# The order of fields

Equal values are followed alike: along any path the places reached in the one are those
reached in the other, up to the order of the fields in them. A condition that asks for
equality has therefore the same answer for two rows, and for two comparison values, that
differ in the order of fields alone.
-/

namespace RecordQuery

/-! ## Places reached in equal values -/

/-- Two values that are equal, with no number in them but integers. -/
structure Value.Alike (left right : Value) : Prop where
  leftIntegral : left.Integral
  rightIntegral : right.Integral
  equal : left.equal right

namespace Value

variable {left right : Value}

theorem Rearranged.alike (rearranged : Rearranged left right) (integral : left.Integral) :
    Alike left right :=
  ⟨integral, rearranged.integral integral, rearranged.equal integral⟩

namespace Alike

theorem symm (alike : Alike left right) : Alike right left :=
  ⟨alike.rightIntegral, alike.leftIntegral,
    alike.leftIntegral.equal_symm alike.rightIntegral alike.equal⟩

theorem trans {third : Value} (alike : Alike left right) (further : Alike right third) :
    Alike left third :=
  ⟨alike.leftIntegral, further.rightIntegral,
    alike.leftIntegral.equal_trans alike.rightIntegral further.rightIntegral alike.equal
      further.equal⟩

theorem list {lefts : List Value} (alike : Alike (.list lefts) right) :
    ∃ rights, right = .list rights ∧ List.Forall₂ Alike lefts rights := by
  obtain ⟨rights, rfl, each⟩ := equal_list_iff.1 alike.equal
  refine ⟨rights, rfl, forall₂_imp_mem ?_ each⟩
  intro left among right beyond same
  exact ⟨alike.leftIntegral.of_list left among, alike.rightIntegral.of_list right beyond, same⟩

theorem object {lefts : Record} (alike : Alike (.object lefts) right) :
    ∃ rights : Record, right = .object rights ∧ ∀ {key left}, lefts.get? key = some left →
      ∃ right, rights.get? key = some right ∧ Alike left right := by
  obtain ⟨rights, rfl, -, each⟩ := equal_object_iff.1 alike.equal
  refine ⟨rights, rfl, ?_⟩
  intro key left found
  have member := Keyed.mem_of_get? found
  obtain ⟨right, present, same⟩ := each key left member
  have rightIntegral := alike.rightIntegral.of_mem (Keyed.mem_of_get? present)
  exact ⟨right, present, alike.leftIntegral.of_mem member, rightIntegral, same⟩

/-- What is missing in one of two equal objects is missing in the other. -/
theorem get?_eq_none {lefts rights : Record} (alike : Alike (.object lefts) (.object rights))
    {key : String} (missing : lefts.get? key = none) : rights.get? key = none := by
  obtain ⟨_, back, each⟩ := alike.symm.object
  cases back
  apply Option.eq_none_iff_forall_ne_some.2
  intro right found
  obtain ⟨left, present, _⟩ := each found
  cases missing.symm.trans present

end Alike

/-- Segments lead to like places in equal values. -/
theorem Leads.alike {segments : List String} {leaves : List Leaf}
    (leads : left.Leads segments leaves) (alike : Alike left right) :
    List.Forall₂ (Option.Rel Alike) leaves (right.reach segments).leaves := by
  induction leads generalizing right with
  | arrived value => exact .cons (.some alike) .nil
  | field found _ ih =>
      obtain ⟨rights, rfl, each⟩ := alike.object
      obtain ⟨right, present, onward⟩ := each found
      rw [reach, descend, present]
      exact ih onward
  | lost missing =>
      obtain ⟨rights, rfl, _⟩ := alike.object
      rw [reach, descend, alike.get?_eq_none missing]
      exact .cons .none .nil
  | @items segment rest items reached _ ih =>
      obtain ⟨others, rfl, each⟩ := alike.list
      have onward : List.Forall₂
          (fun item other => List.Forall₂ (Option.Rel Alike) (reached item)
            (other.reach (segment :: rest)).leaves) items others := by
        apply forall₂_imp_mem _ each
        intro item among other _ alike
        exact ih item among alike
      rw [reach, descend, descendItems_eq_flatMap]
      exact List.rel_flatMap onward fun _ _ alike => alike
  | bare noRecord noList =>
      rw [← alike.leftIntegral.eq_of_equal alike.rightIntegral noRecord noList alike.equal,
        ← (Leads.bare noRecord noList).eq_leaves_reach]
      exact .cons .none .nil

end Value

/-- A path leads to like places in equal rows. -/
theorem Path.alike_resolve {row moved : Record} (alike : Value.Alike (.object row) (.object moved))
    (path : Path) :
    List.Forall₂ (Option.Rel Value.Alike) (path.resolve row).leaves
      (path.resolve moved).leaves := by
  obtain ⟨segments⟩ := path
  cases segments with
  | nil => exact .cons .none .nil
  | cons segment rest => exact (Value.leads_reach (segment :: rest) (.object row)).alike alike

namespace Condition

/-! ## Questions of equality -/

variable {operator : Operator} {value other field moved : Value}

theorem equal_of_alike (fields : field.Alike moved) (values : value.Alike other) :
    field.equal value = moved.equal other := by
  apply Bool.eq_iff_iff.2
  constructor
  · intro same
    have between : field.Alike value := ⟨fields.leftIntegral, values.leftIntegral, same⟩
    exact (fields.symm.trans (between.trans values)).equal
  · intro same
    have between : moved.Alike other := ⟨fields.rightIntegral, values.rightIntegral, same⟩
    exact (fields.trans (between.trans values.symm)).equal

theorem listed?_of_alike (fields : field.Alike moved) (values : value.Alike other) :
    listed? field value = listed? moved other := by
  cases value with
  | list items =>
      obtain ⟨others, rfl, each⟩ := values.list
      have answers : items.map field.equal = others.map moved.equal := by
        apply map_eq_of_forall₂ _ each
        intro item other alike
        exact equal_of_alike fields alike
      have counted := congrArg (fun answers => some (answers.any id)) answers
      simpa [listed?, Value.asList?, List.any_map] using counted
  | _ =>
      have same := values.equal
      cases other with
      | list => simp [Value.equal] at same
      | _ => rfl

/-- Which of two equal values is asked, and which of two equal ones it is compared with,
makes no difference to the four operators that ask for equality. -/
theorem matchesValue_of_alike (asks : operator ∈ [.eq, .neq, .isIn, .notIn])
    (values : value.Alike other) (fields : field.Alike moved) :
    matchesValue operator value field = matchesValue operator other moved := by
  simp only [List.mem_cons, List.not_mem_nil, or_false] at asks
  rcases asks with rfl | rfl | rfl | rfl
  · exact equal_of_alike fields values
  · exact congrArg (!·) (equal_of_alike fields values)
  · exact congrArg (Option.any id) (listed?_of_alike fields values)
  · exact congrArg (Option.any (!·)) (listed?_of_alike fields values)

theorem matchesLeaf_of_alike (asks : operator ∈ [.eq, .neq, .isIn, .notIn])
    (values : value.Alike other) {leaf place : Leaf} (leaves : Option.Rel Value.Alike leaf place)
    (path : Path) (quantifier : Option Quantifier) :
    matchesLeaf ⟨path, operator, value, quantifier⟩ leaf =
      matchesLeaf ⟨path, operator, other, quantifier⟩ place := by
  cases leaves with
  | none => rfl
  | some fields => exact matchesValue_of_alike asks values fields

theorem holds_of_alike (asks : operator ∈ [.eq, .neq, .isIn, .notIn])
    (values : value.Alike other) {row changed : Record}
    (rows : Value.Alike (.object row) (.object changed)) (path : Path)
    (quantifier : Option Quantifier) :
    holds ⟨path, operator, value, quantifier⟩ row =
      holds ⟨path, operator, other, quantifier⟩ changed := by
  have answers : (path.resolve row).leaves.map (matchesLeaf ⟨path, operator, value, quantifier⟩) =
      (path.resolve changed).leaves.map (matchesLeaf ⟨path, operator, other, quantifier⟩) := by
    apply map_eq_of_forall₂ _ (path.alike_resolve rows)
    intro leaf place leaves
    exact matchesLeaf_of_alike asks values leaves path quantifier
  have someHolds := congrArg (List.any · id) answers
  have allHold := congrArg (List.all · id) answers
  simp only [List.any_map, List.all_map, Function.id_comp] at someHolds allHold
  simp only [holds, someHolds, allHold]

end Condition

namespace Value

/-- Integers of 64 bits are compared as integers, also where one word has a sign and the
other one does not. -/
theorem compareCoerced?_int {left right : Int} (leftFits : Number.fitsInteger left)
    (rightFits : Number.fitsInteger right) :
    compareCoerced? (.number (.int left)) (.number (.int right)) = some (compare left right) ∧
      Number.Word.compare (.ofInt left) (.ofInt right) = compare left right := by
  constructor
  · rfl
  · rw [Number.Word.compare_eq, Number.Word.toInt_ofInt leftFits,
      Number.Word.toInt_ofInt rightFits]

/-- On values whose numbers are integers, equality is sameness but for the order of fields
at any depth, and so an equivalence. No question of equality depends on the order of
fields, in the row that is asked or in the comparison value. Integers are compared as
integers, and the comparison of the machine words that hold them comes to the same. -/
theorem equal_up_to_field_order {first second third : Value} (firstIntegral : first.Integral)
    (secondIntegral : second.Integral) (thirdIntegral : third.Integral) :
    (first.equal second ↔ first.Rearranged second) ∧
      first.equal first ∧
      (first.equal second → second.equal first) ∧
      (first.equal second → second.equal third → first.equal third) ∧
      (∀ operator ∈ [Operator.eq, .neq, .isIn, .notIn], ∀ other, first.Rearranged other →
        (∀ moved, second.Rearranged moved →
          Condition.matchesValue operator first second =
            Condition.matchesValue operator other moved) ∧
        ∀ (row changed : Record), Integral (.object row) →
          Rearranged (.object row) (.object changed) → ∀ path quantifier,
            Condition.holds ⟨path, operator, first, quantifier⟩ row =
              Condition.holds ⟨path, operator, other, quantifier⟩ changed) ∧
      ∀ left right : Int, Number.fitsInteger left → Number.fitsInteger right →
        compareCoerced? (.number (.int left)) (.number (.int right)) =
            some (compare left right) ∧
          Number.Word.compare (.ofInt left) (.ofInt right) = compare left right := by
  refine ⟨firstIntegral.equal_iff_rearranged secondIntegral, firstIntegral.equal_refl,
    firstIntegral.equal_symm secondIntegral,
    firstIntegral.equal_trans secondIntegral thirdIntegral, ?questions, ?integers⟩
  case questions =>
    intro operator asks other rearranged
    have values := rearranged.alike firstIntegral
    constructor
    · intro moved rearranged
      exact Condition.matchesValue_of_alike asks values (rearranged.alike secondIntegral)
    · intro row changed integral rearranged path quantifier
      exact Condition.holds_of_alike asks values (rearranged.alike integral) path quantifier
  case integers =>
    intro left right leftFits rightFits
    exact compareCoerced?_int leftFits rightFits

/-- Two objects in lists hold the least and the greatest integer of 64 bits in different
orders. The lists are equal, and it makes no difference which is asked to differ. -/
theorem equal_up_to_field_order_bounds :
    let least := Value.number (.int (-0x8000000000000000))
    let greatest := Value.number (.int 0xFFFFFFFFFFFFFFFF)
    let first := Value.list [.object [("a", least), ("b", greatest)]]
    let second := Value.list [.object [("b", greatest), ("a", least)]]
    first.equal second ∧ second.equal first ∧
      Condition.matchesValue .neq first second = Condition.matchesValue .neq second first := by
  intro least greatest first second
  have firstIntegral : first.Integral := by
    apply Integral.list
    intro item member
    cases List.mem_singleton.1 member
    refine .object (by decide) ?_
    intro key value member
    rcases List.mem_cons.1 member with here | later
    · cases here
      exact .number (by decide)
    · cases List.mem_singleton.1 later
      exact .number (by decide)
  have rearranged : first.Rearranged second :=
    .items (.cons (.moved (.swap _ _ [])) .nil) []
  have secondIntegral := rearranged.integral firstIntegral
  obtain ⟨iff, _, symm, _, questions, _⟩ :=
    equal_up_to_field_order firstIntegral secondIntegral firstIntegral
  have same := iff.2 rearranged
  have questioned := questions .neq (by decide) second rearranged
  exact ⟨same, symm same, questioned.1 first rearranged.symm⟩

end Value

end RecordQuery
