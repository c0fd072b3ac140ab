import Mathlib.Data.List.Forall2
import RecordQuery.Proofs.StoreKeys
import RecordQuery.Proofs.WellFormed

/-!
# Completing the ids of children

Objects in the lists of a record get ids one level deep. Completing leaves nothing
to complete, draws only as many unique texts as ids are missing, and does not touch
the record's own id. It changes a field only where a child lacks an id, and there it
adds the id and nothing else.
-/

namespace RecordQuery

/-- The supply after a number of unique texts are drawn. -/
def Supply.afterIds (supply : Supply) (count : Nat) : Supply :=
  { supply with idsDrawn := supply.idsDrawn + count }

@[simp] theorem Supply.afterIds_afterIds (supply : Supply) (first second : Nat) :
    (supply.afterIds first).afterIds second = supply.afterIds (first + second) := by
  simp only [afterIds, Nat.add_assoc]

variable {settings : Settings}

/-! ## One child -/

/-- A child that needs no id: it has one, or it is no object. -/
def Value.Identified (settings : Settings) (child : Value) : Prop :=
  ∀ fields, child = .object fields → Record.hasId settings fields

theorem completeChild_of_identified {child : Value} (identified : child.Identified settings)
    (owner : String) (supply : Supply) :
    completeChild settings owner supply child = (child, supply) := by
  cases child with
  | object fields => rw [completeChild, if_pos (identified fields rfl)]
  | _ => rfl

theorem identified_completeChild (owner : String) {supply : Supply} (drawn : supply.id ≠ "")
    (child : Value) : (completeChild settings owner supply child).1.Identified settings := by
  cases child with
  | object fields =>
      intro completed same
      rw [completeChild] at same
      split at same
      · cases same
        assumption
      · cases same
        exact Record.hasId_ensureId owner drawn fields
  | _ => exact nofun

theorem wellFormed_completeChild (owner : String) (supply : Supply) {child : Value}
    (wellFormed : child.WellFormed) :
    (completeChild settings owner supply child).1.WellFormed := by
  cases child with
  | object fields =>
      rw [completeChild]
      split
      · exact wellFormed
      · simp only [Record.ensureId]
        split
        · exact wellFormed
        · exact Record.WellFormed.put wellFormed settings.idField (.text _)
  | _ => exact wellFormed

theorem completeChild_supply (settings : Settings) (owner : String) (supply : Supply)
    (child : Value) :
    ∃ count, (completeChild settings owner supply child).2 = supply.afterIds count := by
  cases child with
  | object fields =>
      rw [completeChild]
      split
      · exact ⟨0, rfl⟩
      · exact ⟨1, rfl⟩
  | _ => exact ⟨0, rfl⟩

/-! ## The children of one list -/

theorem completeChildren_of_identified {children : List Value}
    (identified : ∀ child ∈ children, child.Identified settings) (owner : String)
    (supply : Supply) :
    completeChildren settings owner supply children = (children, supply) := by
  induction children with
  | nil => rfl
  | cons child rest ih =>
      obtain ⟨first, others⟩ := List.forall_mem_cons.1 identified
      simp only [completeChildren, completeChild_of_identified first, ih others]

theorem completeChildren_supply (settings : Settings) (owner : String) (supply : Supply)
    (children : List Value) :
    ∃ count, (completeChildren settings owner supply children).2 = supply.afterIds count := by
  induction children generalizing supply with
  | nil => exact ⟨0, rfl⟩
  | cons child rest ih =>
      obtain ⟨first, firstDrawn⟩ := completeChild_supply settings owner supply child
      obtain ⟨more, moreDrawn⟩ := ih (supply.afterIds first)
      refine ⟨first + more, ?_⟩
      simp only [completeChildren, firstDrawn, moreDrawn, Supply.afterIds_afterIds]

theorem identified_completeChildren (owner : String) {supply : Supply}
    (drawn : ∀ draw, supply.idAt draw ≠ "") (children : List Value) :
    ∀ child ∈ (completeChildren settings owner supply children).1, child.Identified settings := by
  induction children generalizing supply with
  | nil => exact nofun
  | cons child rest ih =>
      obtain ⟨first, firstDrawn⟩ := completeChild_supply settings owner supply child
      simp only [completeChildren, firstDrawn]
      exact List.forall_mem_cons.2
        ⟨identified_completeChild owner (drawn supply.idsDrawn) child, ih drawn⟩

theorem wellFormed_completeChildren (owner : String) (supply : Supply) {children : List Value}
    (wellFormed : ∀ child ∈ children, child.WellFormed) :
    ∀ child ∈ (completeChildren settings owner supply children).1, child.WellFormed := by
  induction children generalizing supply with
  | nil => exact nofun
  | cons child rest ih =>
      obtain ⟨first, others⟩ := List.forall_mem_cons.1 wellFormed
      exact List.forall_mem_cons.2 ⟨wellFormed_completeChild owner supply first, ih _ others⟩

/-! ## One field -/

/-- A value whose children need no ids. Only lists have children. -/
def Value.ChildrenIdentified (settings : Settings) (value : Value) : Prop :=
  ∀ children, value = .list children → ∀ child ∈ children, child.Identified settings

theorem completeField_of_identified {field : String} {value : Value}
    (identified : field ≠ settings.idField → value.ChildrenIdentified settings)
    (supply : Supply) : completeField settings supply field value = (value, supply) := by
  cases value with
  | list children =>
      simp only [completeField]
      split
      · rfl
      · rename_i apart
        simp only [completeChildren_of_identified (identified apart children rfl)]
  | _ => rfl

theorem completeField_idField (supply : Supply) (value : Value) :
    completeField settings supply settings.idField value = (value, supply) :=
  completeField_of_identified (fun apart => absurd rfl apart) supply

theorem completeField_supply (settings : Settings) (supply : Supply) (field : String)
    (value : Value) :
    ∃ count, (completeField settings supply field value).2 = supply.afterIds count := by
  cases value with
  | list children =>
      simp only [completeField]
      split
      · exact ⟨0, rfl⟩
      · exact completeChildren_supply settings field supply children
  | _ => exact ⟨0, rfl⟩

theorem identified_completeField {supply : Supply} (drawn : ∀ draw, supply.idAt draw ≠ "")
    {field : String} (apart : field ≠ settings.idField) (value : Value) :
    (completeField settings supply field value).1.ChildrenIdentified settings := by
  cases value with
  | list children =>
      simp only [completeField, if_neg apart]
      intro completed same
      cases same
      exact identified_completeChildren field drawn children
  | _ => exact nofun

/-- Completing leaves a field as it is only if its children have ids. -/
theorem completeField_eq_iff {supply : Supply} (drawn : ∀ draw, supply.idAt draw ≠ "")
    {field : String} (apart : field ≠ settings.idField) (value : Value) :
    (completeField settings supply field value).1 = value ↔
      value.ChildrenIdentified settings := by
  constructor
  · intro unchanged
    rw [← unchanged]
    exact identified_completeField drawn apart value
  · intro identified
    rw [completeField_of_identified fun _ => identified]

theorem wellFormed_completeField (supply : Supply) (field : String) {value : Value}
    (wellFormed : value.WellFormed) :
    (completeField settings supply field value).1.WellFormed := by
  cases wellFormed with
  | list items =>
      simp only [completeField]
      split
      · exact .list items
      · exact .list (wellFormed_completeChildren field supply items)
  | null => exact .null
  | bool value => exact .bool value
  | number value => exact .number value
  | text value => exact .text value
  | object distinct values => exact .object distinct values

/-! ## The whole record -/

/-- Every child of the record has an id, the id field left aside. -/
def Record.ChildrenIdentified (settings : Settings) (record : Record) : Prop :=
  ∀ field value, (field, value) ∈ record → field ≠ settings.idField →
    value.ChildrenIdentified settings

theorem Record.ChildrenIdentified.put {record : Record}
    (identified : record.ChildrenIdentified settings) (field text : String) :
    Record.ChildrenIdentified settings (Keyed.put record field (.text text)) := by
  intro other value member apart
  rcases Keyed.mem_put member with same | kept
  · cases same
    exact nofun
  · exact identified other value kept apart

/-- A record whose children have ids is left as it is, and nothing is drawn. -/
theorem assignChildIds_of_identified {record : Record}
    (identified : record.ChildrenIdentified settings) (supply : Supply) :
    assignChildIds settings supply record = (record, supply) := by
  induction record with
  | nil => rfl
  | cons entry rest ih =>
      obtain ⟨field, value⟩ := entry
      have first : completeField settings supply field value = (value, supply) :=
        completeField_of_identified (identified field value List.mem_cons_self) supply
      have others : assignChildIds settings supply rest = (rest, supply) :=
        ih fun other present member => identified other present (List.mem_cons_of_mem _ member)
      simp only [assignChildIds, first, others]

theorem assignChildIds_supply (settings : Settings) (supply : Supply) (record : Record) :
    ∃ count, (assignChildIds settings supply record).2 = supply.afterIds count := by
  induction record generalizing supply with
  | nil => exact ⟨0, rfl⟩
  | cons entry rest ih =>
      obtain ⟨field, value⟩ := entry
      obtain ⟨first, firstDrawn⟩ := completeField_supply settings supply field value
      obtain ⟨more, moreDrawn⟩ := ih (supply.afterIds first)
      refine ⟨first + more, ?_⟩
      simp only [assignChildIds, firstDrawn, moreDrawn, Supply.afterIds_afterIds]

/-- Completing children draws no times. -/
theorem time_assignChildIds (settings : Settings) (supply : Supply) (record : Record) :
    (assignChildIds settings supply record).2.time = supply.time := by
  obtain ⟨count, drawn⟩ := assignChildIds_supply settings supply record
  rw [drawn]
  rfl

/-- The text drawn after completing children is not empty either. -/
theorem drawn_assignChildIds (settings : Settings) {supply : Supply}
    (drawn : ∀ draw, supply.idAt draw ≠ "") (record : Record) :
    (assignChildIds settings supply record).2.id ≠ "" := by
  obtain ⟨count, counted⟩ := assignChildIds_supply settings supply record
  rw [counted]
  exact drawn _

theorem childrenIdentified_assignChildIds {supply : Supply}
    (drawn : ∀ draw, supply.idAt draw ≠ "") (record : Record) :
    Record.ChildrenIdentified settings (assignChildIds settings supply record).1 := by
  induction record generalizing supply with
  | nil => exact nofun
  | cons entry rest ih =>
      obtain ⟨field, value⟩ := entry
      obtain ⟨first, firstDrawn⟩ := completeField_supply settings supply field value
      intro other completed member apart
      simp only [assignChildIds, firstDrawn] at member
      rcases List.mem_cons.1 member with same | later
      · cases same
        exact identified_completeField drawn apart value
      · have drawnAfter : ∀ draw, (supply.afterIds first).idAt draw ≠ "" := drawn
        exact ih drawnAfter other completed later apart

@[simp] theorem keys_assignChildIds (supply : Supply) (record : Record) :
    Keyed.keys (assignChildIds settings supply record).1 = Keyed.keys record := by
  induction record generalizing supply with
  | nil => rfl
  | cons entry rest ih => exact congrArg (entry.1 :: ·) (ih _)

theorem distinct_assignChildIds (supply : Supply) {record : Record}
    (distinct : Keyed.Distinct record) :
    Keyed.Distinct (assignChildIds settings supply record).1 := by
  rw [Keyed.Distinct, keys_assignChildIds]
  exact distinct

/-- Every field of a record is completed by itself, after those before it. -/
theorem get?_assignChildIds (settings : Settings) (supply : Supply) (record : Record)
    (field : String) :
    ∃ count, Keyed.get? (assignChildIds settings supply record).1 field =
      (record.get? field).map fun value =>
        (completeField settings (supply.afterIds count) field value).1 := by
  induction record generalizing supply with
  | nil => exact ⟨0, rfl⟩
  | cons entry rest ih =>
      obtain ⟨other, value⟩ := entry
      simp only [assignChildIds, Keyed.get?]
      split
      · rename_i same
        subst same
        exact ⟨0, rfl⟩
      · obtain ⟨first, firstDrawn⟩ := completeField_supply settings supply other value
        obtain ⟨more, read⟩ := ih (supply.afterIds first)
        refine ⟨first + more, ?_⟩
        rw [firstDrawn, read, Supply.afterIds_afterIds]

@[simp] theorem id_assignChildIds (supply : Supply) (record : Record) :
    Record.id settings (assignChildIds settings supply record).1 = Record.id settings record := by
  obtain ⟨count, read⟩ := get?_assignChildIds settings supply record settings.idField
  simp only [Record.id, read, completeField_idField, Option.map_id']

/-- Completing leaves what is read at a field as it is only if its children have ids. -/
theorem get?_assignChildIds_eq_iff {supply : Supply} (drawn : ∀ draw, supply.idAt draw ≠ "")
    (record : Record) {field : String} (apart : field ≠ settings.idField) :
    Keyed.get? (assignChildIds settings supply record).1 field = record.get? field ↔
      ∀ value, record.get? field = some value → value.ChildrenIdentified settings := by
  obtain ⟨count, read⟩ := get?_assignChildIds settings supply record field
  rw [read]
  cases held : record.get? field with
  | none => simp
  | some value =>
      have drawnLater : ∀ draw, (supply.afterIds count).idAt draw ≠ "" := drawn
      simp [completeField_eq_iff drawnLater apart]

theorem wellFormed_assignChildIds (supply : Supply) {record : Record}
    (wellFormed : record.WellFormed) :
    Record.WellFormed (assignChildIds settings supply record).1 := by
  refine .object ?_ ?_
  · exact distinct_assignChildIds supply wellFormed.distinct
  · have values : ∀ key value, (key, value) ∈ record → value.WellFormed :=
      fun key value member => wellFormed.value member
    clear wellFormed
    induction record generalizing supply with
    | nil =>
        intro key value member
        cases member
    | cons entry rest ih =>
        intro key value member
        rcases List.mem_cons.1 member with same | later
        · cases same
          exact wellFormed_completeField supply entry.1 (values _ _ List.mem_cons_self)
        · exact ih _ (fun key value member => values key value (List.mem_cons_of_mem _ member))
            key value later

/-! ## What completing adds -/

/-- What completing makes of a child in the list `owner`: an object without an id gets
one, made for the list from one of the unique texts, and anything else stays. -/
inductive Value.CompletedChild (settings : Settings) (uniques : Nat → String) (owner : String) :
    Value → Value → Prop where
  | kept {child : Value} : child.Identified settings →
      CompletedChild settings uniques owner child child
  | filled {fields : Record} (draw : Nat) : ¬Record.hasId settings fields →
      CompletedChild settings uniques owner (.object fields)
        (.object (fields.put settings.idField (.text (settings.makeId owner (uniques draw)))))

/-- What completing makes of a field's value: the children of a list are completed,
unless the field is the id, and anything else stays. -/
inductive Value.CompletedField (settings : Settings) (uniques : Nat → String) (field : String) :
    Value → Value → Prop where
  | list {children completed : List Value} : field ≠ settings.idField →
      List.Forall₂ (Value.CompletedChild settings uniques field) children completed →
        CompletedField settings uniques field (.list children) (.list completed)
  | kept {value : Value} : (field ≠ settings.idField → value.asList? = none) →
      CompletedField settings uniques field value value

/-- What completing makes of a record, field by field. -/
def Record.CompletedTo (settings : Settings) (uniques : Nat → String) : Record → Record → Prop :=
  List.Forall₂ fun given completed => given.1 = completed.1 ∧
    Value.CompletedField settings uniques given.1 given.2 completed.2

theorem completedChild_completeChild (owner : String) (supply : Supply) (child : Value) :
    child.CompletedChild settings supply.idAt owner
      (completeChild settings owner supply child).1 := by
  cases child with
  | object fields =>
      rw [completeChild]
      split
      · rename_i present
        apply Value.CompletedChild.kept
        intro _ same
        cases same
        exact present
      · rename_i absent
        rw [Record.ensureId, if_neg absent]
        exact .filled supply.idsDrawn absent
  | _ =>
      apply Value.CompletedChild.kept
      intro _ same
      cases same

theorem completedChild_completeChildren (owner : String) (supply : Supply)
    (children : List Value) :
    List.Forall₂ (Value.CompletedChild settings supply.idAt owner) children
      (completeChildren settings owner supply children).1 := by
  induction children generalizing supply with
  | nil => exact .nil
  | cons child rest ih =>
      obtain ⟨count, drawn⟩ := completeChild_supply settings owner supply child
      simp only [completeChildren, drawn]
      exact .cons (completedChild_completeChild owner supply child) (ih (supply.afterIds count))

theorem completedField_completeField (supply : Supply) (field : String) (value : Value) :
    value.CompletedField settings supply.idAt field
      (completeField settings supply field value).1 := by
  cases value with
  | list children =>
      simp only [completeField]
      split
      · rename_i same
        exact .kept fun apart => absurd same apart
      · rename_i apart
        exact .list apart (completedChild_completeChildren field supply children)
  | _ => exact .kept fun _ => rfl

theorem completedTo_assignChildIds (supply : Supply) (record : Record) :
    record.CompletedTo settings supply.idAt (assignChildIds settings supply record).1 := by
  induction record generalizing supply with
  | nil => exact .nil
  | cons entry rest ih =>
      obtain ⟨field, value⟩ := entry
      obtain ⟨count, drawn⟩ := completeField_supply settings supply field value
      simp only [assignChildIds, drawn]
      apply List.Forall₂.cons
      · exact ⟨rfl, completedField_completeField supply field value⟩
      · exact ih (supply.afterIds count)

end RecordQuery
