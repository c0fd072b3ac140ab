import Mathlib.Data.List.Nodup
import Mathlib.Data.List.Perm.Subperm
import RecordQuery.Proofs.Keyed
import RecordQuery.Value.Compare

/-!
# Value equality

Value equality looks up each field of the left object in the right one and never the other
way round. On data whose numbers are integers it is still an equivalence: as keys are
distinct and both objects have equally many fields, the fields found on the right are all
there are. So equality holds exactly between values that differ in the order of fields
alone, which is said by a relation, `Value.Rearranged`, that moves fields about.
-/

namespace RecordQuery

/-! ## Lists side by side -/

section Lists

variable {α β : Type}

theorem map_eq_of_forall₂ {related : α → α → Prop} {first second : α → β}
    (agree : ∀ left right, related left right → first left = second right) {lefts rights : List α}
    (each : List.Forall₂ related lefts rights) : lefts.map first = rights.map second := by
  induction each with
  | nil => rfl
  | cons related _ ih => rw [List.map_cons, List.map_cons, agree _ _ related, ih]

theorem forall₂_imp_mem {related others : α → α → Prop} {lefts rights : List α}
    (imp : ∀ left ∈ lefts, ∀ right ∈ rights, related left right → others left right)
    (each : List.Forall₂ related lefts rights) : List.Forall₂ others lefts rights := by
  apply List.forall₂_iff_zip.2
  constructor
  · exact each.length_eq
  · intro left right paired
    obtain ⟨among, beyond⟩ := List.of_mem_zip paired
    exact imp left among right beyond (List.forall₂_zip each paired)

/-- A relation is transitive on lists if it is on their items. -/
theorem forall₂_trans {related : α → α → Prop} {firsts seconds thirds : List α}
    (trans : ∀ first ∈ firsts, ∀ second ∈ seconds, ∀ third ∈ thirds, related first second →
      related second third → related first third)
    (lefts : List.Forall₂ related firsts seconds) (rights : List.Forall₂ related seconds thirds) :
    List.Forall₂ related firsts thirds := by
  induction lefts generalizing thirds with
  | nil => exact rights
  | cons left _ ih =>
      cases rights with
      | cons right rights =>
          have here := trans _ List.mem_cons_self _ List.mem_cons_self _ List.mem_cons_self
            left right
          refine .cons here (ih ?_ rights)
          intro first among second between third beyond
          exact trans first (List.mem_cons_of_mem _ among) second (List.mem_cons_of_mem _ between)
            third (List.mem_cons_of_mem _ beyond)

end Lists

/-! ## Counting fields -/

namespace Keyed

variable {α β : Type}

theorem Distinct.perm {entries moved : Keyed α} (distinct : entries.Distinct)
    (perm : List.Perm entries moved) : moved.Distinct :=
  (perm.map Prod.fst).nodup_iff.1 distinct

/-- Where one entry has another value in its place, all other entries are there still. -/
theorem eq_or_mem_of_mem {before after : Keyed α} {key : String} {old : α} (new : α)
    {entry : String × α} (member : entry ∈ before ++ (key, old) :: after) :
    entry = (key, old) ∨ entry ∈ before ++ (key, new) :: after := by
  rcases List.mem_append.1 member with earlier | here
  · exact .inr (List.mem_append_left _ earlier)
  · rcases List.mem_cons.1 here with same | later
    · exact .inl same
    · exact .inr (List.mem_append_right _ (List.mem_cons_of_mem _ later))

/-- Entries of one list side by side with those of another that have the same keys. -/
abbrev SideBySide (related : α → β → Prop) : Keyed α → Keyed β → Prop :=
  List.Forall₂ fun left right => left.1 = right.1 ∧ related left.2 right.2

variable {related : α → β → Prop} {lefts : Keyed α} {rights : Keyed β}

theorem SideBySide.keys_eq {matched : Keyed β} (beside : SideBySide related lefts matched) :
    matched.keys = lefts.keys := by
  induction beside with
  | nil => rfl
  | cons first _ ih => exact congrArg₂ List.cons first.1.symm ih

theorem exists_sideBySide_of_found
    (found : ∀ key left, (key, left) ∈ lefts →
      ∃ right, rights.get? key = some right ∧ related left right) :
    ∃ matched, SideBySide related lefts matched ∧ matched ⊆ rights := by
  induction lefts with
  | nil => exact ⟨[], .nil, List.nil_subset _⟩
  | cons entry rest ih =>
      obtain ⟨key, left⟩ := entry
      obtain ⟨right, present, holds⟩ := found key left List.mem_cons_self
      obtain ⟨matched, beside, among⟩ :=
        ih fun other value member => found other value (List.mem_cons_of_mem _ member)
      exact ⟨(key, right) :: matched, .cons ⟨rfl, holds⟩ beside,
        List.cons_subset.2 ⟨mem_of_get? present, among⟩⟩

/-- If every entry is found in a list that is no longer, nothing of that list is left over. -/
theorem exists_perm_of_found (distinct : lefts.Distinct) (length_eq : lefts.length = rights.length)
    (found : ∀ key left, (key, left) ∈ lefts →
      ∃ right, rights.get? key = some right ∧ related left right) :
    ∃ matched, SideBySide related lefts matched ∧ List.Perm matched rights := by
  obtain ⟨matched, beside, among⟩ := exists_sideBySide_of_found found
  have once : matched.Nodup := by
    have keysOnce : matched.keys.Nodup := beside.keys_eq ▸ distinct
    exact List.Nodup.of_map _ keysOnce
  have noLonger : rights.length ≤ matched.length :=
    Nat.le_of_eq (length_eq.symm.trans beside.length_eq)
  exact ⟨matched, beside, (List.subperm_of_subset once among).perm_of_length_le noLonger⟩

end Keyed

namespace Value

/-! ## Moving fields -/

/-- Data whose numbers are all integers of 64 bits, and whose objects have each field once. -/
inductive Integral : Value → Prop where
  | null : Integral .null
  | bool (value : Bool) : Integral (.bool value)
  | number {value : Int} : Number.fitsInteger value → Integral (.number (.int value))
  | text (value : String) : Integral (.text value)
  | list {items : List Value} : (∀ item ∈ items, Integral item) → Integral (.list items)
  | object {fields : List (String × Value)} : Keyed.Distinct fields →
      (∀ key value, (key, value) ∈ fields → Integral value) → Integral (.object fields)

/-- The same value but for the order of fields, at any depth: the fields of an object may
be moved, and so may those of an item or of a field's value, again and again. -/
inductive Rearranged : Value → Value → Prop where
  | refl (value : Value) : Rearranged value value
  | moved {fields others : List (String × Value)} : List.Perm fields others →
      Rearranged (.object fields) (.object others)
  | item {before after : List Value} {old new : Value} : Rearranged old new →
      Rearranged (.list (before ++ old :: after)) (.list (before ++ new :: after))
  | field {before after : List (String × Value)} {key : String} {old new : Value} :
      Rearranged old new → Rearranged (.object (before ++ (key, old) :: after))
        (.object (before ++ (key, new) :: after))
  | trans {first second third : Value} : Rearranged first second → Rearranged second third →
      Rearranged first third

namespace Rearranged

theorem symm {left right : Value} (rearranged : Rearranged left right) :
    Rearranged right left := by
  induction rearranged with
  | refl value => exact .refl value
  | moved perm => exact .moved perm.symm
  | item _ ih => exact .item ih
  | field _ ih => exact .field ih
  | trans _ _ first second => exact .trans second first

theorem items {lefts rights : List Value} (each : List.Forall₂ Rearranged lefts rights)
    (before : List Value) : Rearranged (.list (before ++ lefts)) (.list (before ++ rights)) := by
  induction each generalizing before with
  | nil => exact .refl _
  | @cons left right lefts rights first _ ih =>
      have others := ih (before ++ [right])
      rw [List.append_assoc, List.append_assoc] at others
      exact (Rearranged.item first).trans others

theorem fields {lefts rights : List (String × Value)}
    (each : Keyed.SideBySide Rearranged lefts rights) (before : List (String × Value)) :
    Rearranged (.object (before ++ lefts)) (.object (before ++ rights)) := by
  induction each generalizing before with
  | nil => exact .refl _
  | @cons left right lefts rights first _ ih =>
      obtain ⟨key, old⟩ := left
      obtain ⟨other, new⟩ := right
      obtain ⟨rfl, changed⟩ := first
      have others := ih (before ++ [(key, new)])
      rw [List.append_assoc, List.append_assoc] at others
      exact (Rearranged.field changed).trans others

end Rearranged

theorem Integral.of_list {items : List Value} (integral : Integral (.list items)) :
    ∀ item ∈ items, Integral item := by
  cases integral with
  | list each => exact each

theorem Integral.distinct {fields : Record} (integral : Integral (.object fields)) :
    fields.Distinct := by
  cases integral with
  | object distinct _ => exact distinct

theorem Integral.of_mem {fields : Record} (integral : Integral (.object fields)) {key : String}
    {value : Value} (member : (key, value) ∈ fields) : Integral value := by
  cases integral with
  | object _ values => exact values key value member

theorem Rearranged.integral {left right : Value} (rearranged : Rearranged left right)
    (integral : left.Integral) : right.Integral := by
  induction rearranged with
  | refl => exact integral
  | moved perm =>
      refine .object (integral.distinct.perm perm) ?_
      intro key value member
      exact integral.of_mem (perm.mem_iff.2 member)
  | item _ ih =>
      obtain ⟨before, others⟩ := List.forall_mem_append.1 integral.of_list
      obtain ⟨old, after⟩ := List.forall_mem_cons.1 others
      exact .list (List.forall_mem_append.2 ⟨before, List.forall_mem_cons.2 ⟨ih old, after⟩⟩)
  | @field before after key old new _ ih =>
      have keys_eq : Keyed.keys (before ++ (key, new) :: after) =
          Keyed.keys (before ++ (key, old) :: after) := by simp [Keyed.keys]
      have changed : Integral new :=
        ih (integral.of_mem (List.mem_append_right _ List.mem_cons_self))
      refine .object (by rw [Keyed.Distinct, keys_eq]; exact integral.distinct) ?_
      intro other value member
      rcases Keyed.eq_or_mem_of_mem old member with same | kept
      · cases same
        exact changed
      · exact integral.of_mem kept
  | trans _ _ first second => exact second (first integral)

/-! ## Equality -/

theorem equalItems_iff {lefts rights : List Value} :
    equalItems lefts rights ↔ List.Forall₂ (fun left right => left.equal right) lefts rights := by
  induction lefts generalizing rights with
  | nil => cases rights <;> simp [equalItems]
  | cons left lefts ih => cases rights <;> simp [equalItems, ih]

theorem equalFields_iff {lefts rights : Record} :
    equalFields lefts rights ↔ ∀ key left, (key, left) ∈ lefts →
      ∃ right, rights.get? key = some right ∧ left.equal right := by
  induction lefts with
  | nil => simp [equalFields]
  | cons entry lefts ih =>
      obtain ⟨key, left⟩ := entry
      rw [equalFields, Bool.and_eq_true, ih]
      constructor
      · rintro ⟨first, others⟩ other value member
        rcases List.mem_cons.1 member with same | later
        · cases same
          cases found : rights.get? key with
          | none => simp [found] at first
          | some right => exact ⟨right, rfl, by simpa [found] using first⟩
        · exact others other value later
      · intro found
        obtain ⟨right, present, same⟩ := found key left List.mem_cons_self
        refine ⟨by simpa [present] using same, ?_⟩
        intro other value member
        exact found other value (List.mem_cons_of_mem _ member)

theorem equal_list_iff {lefts : List Value} {right : Value} :
    equal (.list lefts) right ↔ ∃ rights, right = .list rights ∧
      List.Forall₂ (fun left right => left.equal right) lefts rights := by
  cases right <;> simp [equal, equalItems_iff]

theorem equal_object_iff {lefts : Record} {right : Value} :
    equal (.object lefts) right ↔ ∃ rights : Record, right = .object rights ∧
      lefts.length = rights.length ∧ ∀ key left, (key, left) ∈ lefts →
        ∃ right, rights.get? key = some right ∧ left.equal right := by
  cases right <;> simp [equal, equalFields_iff]

theorem equal_int_iff {left right : Int} :
    equal (.number (.int left)) (.number (.int right)) ↔ left = right := by
  rw [equal, Number.compare?, beq_iff_eq, Option.some.injEq, Int.compare_eq_eq]

/-- Where there is nothing within, equal values are the same. -/
theorem Integral.eq_of_equal {left right : Value} (leftIntegral : left.Integral)
    (rightIntegral : right.Integral) (noRecord : left.asRecord? = none)
    (noList : left.asList? = none) (same : left.equal right) : left = right := by
  cases leftIntegral with
  | number =>
      cases rightIntegral with
      | number => rw [equal_int_iff.1 same]
      | _ => simp [equal] at same
  | list => cases noList
  | object => cases noRecord
  | _ => cases right <;> simp_all [equal]

theorem Integral.equal_refl {value : Value} (integral : value.Integral) : value.equal value := by
  induction integral with
  | null => rfl
  | bool value => exact beq_self_eq_true value
  | number => exact equal_int_iff.2 rfl
  | text value => exact beq_self_eq_true value
  | @list items _ ih => exact equal_list_iff.2 ⟨items, rfl, List.forall₂_same.2 ih⟩
  | @object fields distinct _ ih =>
      refine equal_object_iff.2 ⟨fields, rfl, rfl, ?_⟩
      intro key value member
      exact ⟨value, Keyed.get?_of_mem distinct member, ih key value member⟩

/-- Equal values differ in the order of fields alone. -/
theorem Integral.rearranged_of_equal {left right : Value} (leftIntegral : left.Integral)
    (rightIntegral : right.Integral) (same : left.equal right) : Rearranged left right := by
  induction leftIntegral generalizing right with
  | @list lefts _ ih =>
      obtain ⟨rights, rfl, each⟩ := equal_list_iff.1 same
      apply Rearranged.items _ []
      apply forall₂_imp_mem _ each
      intro left among right beyond same
      exact ih left among (rightIntegral.of_list right beyond) same
  | @object lefts distinct _ ih =>
      obtain ⟨rights, rfl, length_eq, found⟩ := equal_object_iff.1 same
      have onward : ∀ key left, (key, left) ∈ lefts →
          ∃ right, Keyed.get? rights key = some right ∧ Rearranged left right := by
        intro key left member
        obtain ⟨right, present, same⟩ := found key left member
        have integral := rightIntegral.of_mem (Keyed.mem_of_get? present)
        exact ⟨right, present, ih key left member integral same⟩
      obtain ⟨matched, beside, perm⟩ := Keyed.exists_perm_of_found distinct length_eq onward
      exact (Rearranged.fields beside []).trans (.moved perm)
  | null | bool | number | text =>
      rw [Integral.eq_of_equal (by constructor <;> assumption) rightIntegral rfl rfl same]
      exact .refl right

theorem Integral.equal_trans {first second third : Value} (firstIntegral : first.Integral)
    (secondIntegral : second.Integral) (thirdIntegral : third.Integral)
    (left : first.equal second) (right : second.equal third) : first.equal third := by
  induction firstIntegral generalizing second third with
  | @list firsts _ ih =>
      obtain ⟨seconds, rfl, lefts⟩ := equal_list_iff.1 left
      obtain ⟨thirds, rfl, rights⟩ := equal_list_iff.1 right
      refine equal_list_iff.2 ⟨thirds, rfl, forall₂_trans ?_ lefts rights⟩
      intro first among second between third beyond left right
      exact ih first among (secondIntegral.of_list second between)
        (thirdIntegral.of_list third beyond) left right
  | @object firsts _ _ ih =>
      obtain ⟨seconds, rfl, left_length, lefts⟩ := equal_object_iff.1 left
      obtain ⟨thirds, rfl, right_length, rights⟩ := equal_object_iff.1 right
      refine equal_object_iff.2 ⟨thirds, rfl, left_length.trans right_length, ?_⟩
      intro key first member
      obtain ⟨second, found, left⟩ := lefts key first member
      have between := Keyed.mem_of_get? found
      obtain ⟨third, present, right⟩ := rights key second between
      have beyond := Keyed.mem_of_get? present
      exact ⟨third, present, ih key first member (secondIntegral.of_mem between)
        (thirdIntegral.of_mem beyond) left right⟩
  | null | bool | number | text =>
      rwa [Integral.eq_of_equal (by constructor <;> assumption) secondIntegral rfl rfl left]

/-- Values that differ in the order of fields alone are equal. -/
theorem Rearranged.equal {left right : Value} (rearranged : Rearranged left right)
    (integral : left.Integral) : left.equal right := by
  induction rearranged with
  | refl => exact integral.equal_refl
  | @moved fields others perm =>
      refine equal_object_iff.2 ⟨others, rfl, perm.length_eq, ?_⟩
      intro key value member
      have present : Keyed.get? others key = some value :=
        Keyed.get?_of_mem (integral.distinct.perm perm) (perm.mem_iff.1 member)
      exact ⟨value, present, (integral.of_mem member).equal_refl⟩
  | @item before after old new _ ih =>
      have each : ∀ item ∈ before ++ old :: after, item.equal item :=
        fun item member => (integral.of_list item member).equal_refl
      obtain ⟨befores, others⟩ := List.forall_mem_append.1 each
      obtain ⟨_, afters⟩ := List.forall_mem_cons.1 others
      have same : old.equal new := ih (integral.of_list old (by simp))
      refine equal_list_iff.2 ⟨before ++ new :: after, rfl, ?_⟩
      exact List.rel_append (List.forall₂_same.2 befores) (.cons same (List.forall₂_same.2 afters))
  | @field before after key old new changed ih =>
      have distinct := ((Rearranged.field changed).integral integral).distinct
      have here : (key, old) ∈ before ++ (key, old) :: after :=
        List.mem_append_right _ List.mem_cons_self
      have same : old.equal new := ih (integral.of_mem here)
      refine equal_object_iff.2 ⟨before ++ (key, new) :: after, rfl, by simp, ?_⟩
      intro other value member
      rcases Keyed.eq_or_mem_of_mem new member with here | kept
      · cases here
        exact ⟨new, Keyed.get?_of_mem distinct (by simp), same⟩
      · exact ⟨value, Keyed.get?_of_mem distinct kept, (integral.of_mem member).equal_refl⟩
  | trans first second firstEqual secondEqual =>
      have between := first.integral integral
      exact integral.equal_trans between (second.integral between) (firstEqual integral)
        (secondEqual between)

theorem Integral.equal_iff_rearranged {left right : Value} (leftIntegral : left.Integral)
    (rightIntegral : right.Integral) : left.equal right ↔ Rearranged left right := by
  constructor
  · exact leftIntegral.rearranged_of_equal rightIntegral
  · intro rearranged
    exact rearranged.equal leftIntegral

theorem Integral.equal_symm {left right : Value} (leftIntegral : left.Integral)
    (rightIntegral : right.Integral) (same : left.equal right) : right.equal left := by
  have rearranged := leftIntegral.rearranged_of_equal rightIntegral same
  exact rearranged.symm.equal rightIntegral

end Value

end RecordQuery
