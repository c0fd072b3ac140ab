import RecordQuery.Proofs.ChildIds

/-!
# Fresh ids of children

Completing a record walks along its children, which are the objects in its lists, and
draws one unique text for each of them that has no id. So it assigns as many ids as were
missing, and these differ from one another as long as no id is made twice.
-/

namespace RecordQuery

variable {settings : Settings} {supply final middle : Supply}
  {given completed : List (String × Record)}

/-! ## Children in order -/

/-- The objects in a field's list, each with the name of the field. The id field is left
aside. -/
def Value.children (settings : Settings) (field : String) : Value → List (String × Record)
  | .list items =>
      if field = settings.idField then []
      else items.filterMap fun item => item.asRecord?.map (field, ·)
  | _ => []

/-- The children of a record, field by field. -/
def Record.children (settings : Settings) (record : Record) : List (String × Record) :=
  record.flatMap fun (field, value) => value.children settings field

/-- The number of children that have no id. -/
def childrenWithoutId (settings : Settings) (children : List (String × Record)) : Nat :=
  children.countP fun (_, fields) => !Record.hasId settings fields

/-- The ids that children have afterwards, of those that had none before. -/
def idsGiven (settings : Settings) (given completed : List (String × Record)) : List Leaf :=
  ((given.zip completed).filter fun (before, _) => !Record.hasId settings before.2).map
    fun (_, after) => Record.id settings after.2

/-- A walk along children, from one state of the supply to another: a child with an id
stays, and any other one gets an id made from the next unique text. -/
inductive Numbered (settings : Settings) :
    Supply → List (String × Record) → List (String × Record) → Supply → Prop where
  | done (supply : Supply) : Numbered settings supply [] [] supply
  | kept {supply final : Supply} {owner : String} {fields : Record}
      {given completed : List (String × Record)} : Record.hasId settings fields →
      Numbered settings supply given completed final →
        Numbered settings supply ((owner, fields) :: given) ((owner, fields) :: completed) final
  | filled {supply final : Supply} {owner : String} {fields : Record}
      {given completed : List (String × Record)} : ¬Record.hasId settings fields →
      Numbered settings supply.afterId given completed final →
        Numbered settings supply ((owner, fields) :: given)
          ((owner, fields.put settings.idField (.text (settings.makeId owner supply.id))) ::
            completed) final

namespace Numbered

theorem append {more others : List (String × Record)}
    (first : Numbered settings supply given completed middle)
    (second : Numbered settings middle more others final) :
    Numbered settings supply (given ++ more) (completed ++ others) final := by
  induction first with
  | done => exact second
  | kept present _ ih => exact .kept present (ih second)
  | filled absent _ ih => exact .filled absent (ih second)

end Numbered

/-! ## Completing is such a walk -/

theorem numbered_completeChildren {owner : String} (apart : owner ≠ settings.idField)
    (supply : Supply) (children : List Value) :
    Numbered settings supply (Value.children settings owner (.list children))
      (Value.children settings owner (.list (completeChildren settings owner supply children).1))
      (completeChildren settings owner supply children).2 := by
  simp only [Value.children, if_neg apart]
  induction children generalizing supply with
  | nil => exact .done supply
  | cons child rest ih =>
      cases child with
      | object fields =>
          by_cases present : Record.hasId settings fields
          · simp only [completeChildren, completeChild, if_pos present]
            exact .kept present (ih supply)
          · simp only [completeChildren, completeChild, Record.ensureId, if_neg present]
            exact .filled present (ih supply.afterId)
      | _ => exact ih supply

theorem numbered_completeField (supply : Supply) (field : String) (value : Value) :
    Numbered settings supply (value.children settings field)
      ((completeField settings supply field value).1.children settings field)
      (completeField settings supply field value).2 := by
  cases value with
  | list children =>
      by_cases same : field = settings.idField
      · subst same
        simp only [completeField_idField, Value.children, if_true]
        exact .done supply
      · simp only [completeField, if_neg same]
        exact numbered_completeChildren same supply children
  | _ => exact .done supply

theorem numbered_assignChildIds (settings : Settings) (supply : Supply) (record : Record) :
    Numbered settings supply (Record.children settings record)
      (Record.children settings (assignChildIds settings supply record).1)
      (assignChildIds settings supply record).2 := by
  induction record generalizing supply with
  | nil => exact .done supply
  | cons entry rest ih =>
      obtain ⟨field, value⟩ := entry
      exact (numbered_completeField supply field value).append (ih _)

/-! ## How many ids, and which -/

/-- No two of the texts drawn between two states of a supply are the same. -/
def Supply.DrawsApart (supply final : Supply) : Prop :=
  ∀ first second, supply.idsDrawn ≤ first → first < final.idsDrawn →
    supply.idsDrawn ≤ second → second < final.idsDrawn →
      supply.idAt first = supply.idAt second → first = second

/-- No two of the texts drawn between two states of a supply make the same id, whatever
the ids are made for. -/
def Supply.Unrepeated (settings : Settings) (supply final : Supply) : Prop :=
  ∀ first second, supply.idsDrawn ≤ first → first < final.idsDrawn →
    supply.idsDrawn ≤ second → second < final.idsDrawn →
      ∀ owner other, settings.makeId owner (supply.idAt first) =
        settings.makeId other (supply.idAt second) → first = second

/-- Texts that differ make different ids, behind a name if they are of one length: what
stands before them does not matter then. -/
theorem Supply.DrawsApart.unrepeated (apart : supply.DrawsApart final)
    (plain : settings.idStrategy = .uuid ∨ ∃ length, ∀ draw, (supply.idAt draw).length = length) :
    supply.Unrepeated settings final := by
  intro first second firstFrom firstTo secondFrom secondTo owner other same
  apply apart first second firstFrom firstTo secondFrom secondTo
  rcases plain with uuid | ⟨length, even⟩
  · simpa [Settings.makeId, uuid] using same
  · simp only [Settings.makeId] at same
    split at same
    · exact same
    · have joined := congrArg String.toList same
      simp only [String.toList_append] at joined
      have sameLength :
          (supply.idAt first).toList.length = (supply.idAt second).toList.length := by
        simp only [String.length_toList, even]
      exact String.toList_inj.1 (List.append_inj_right' joined sameLength)

theorem idsGiven_cons_of_hasId {child : String × Record}
    (present : Record.hasId settings child.2) (after : String × Record)
    (given completed : List (String × Record)) :
    idsGiven settings (child :: given) (after :: completed) =
      idsGiven settings given completed := by
  simp [idsGiven, present]

theorem idsGiven_cons_of_not_hasId {child : String × Record}
    (absent : ¬Record.hasId settings child.2) (after : String × Record)
    (given completed : List (String × Record)) :
    idsGiven settings (child :: given) (after :: completed) =
      Record.id settings after.2 :: idsGiven settings given completed := by
  simp [idsGiven, absent]

namespace Numbered

/-- A walk draws a text for every child that has no id. -/
theorem final_eq (numbered : Numbered settings supply given completed final) :
    final = supply.afterIds (childrenWithoutId settings given) := by
  induction numbered with
  | done => rfl
  | kept present _ ih => simpa [childrenWithoutId, present] using ih
  | filled absent _ ih =>
      rw [ih]
      simp [childrenWithoutId, absent, Supply.afterIds, Supply.afterId, Nat.add_comm]
      omega

/-- An id that is given is made from a text drawn on the walk. -/
theorem exists_drawn (numbered : Numbered settings supply given completed final) {leaf : Leaf}
    (member : leaf ∈ idsGiven settings given completed) :
    ∃ owner draw, supply.idsDrawn ≤ draw ∧ draw < final.idsDrawn ∧
      leaf = some (.text (settings.makeId owner (supply.idAt draw))) := by
  induction numbered with
  | done => cases member
  | kept present _ ih =>
      rw [idsGiven_cons_of_hasId present] at member
      exact ih member
  | @filled supply final owner fields given completed absent rest ih =>
      rw [idsGiven_cons_of_not_hasId absent] at member
      rcases List.mem_cons.1 member with same | later
      · refine ⟨owner, supply.idsDrawn, Nat.le_refl _, ?_, ?_⟩
        · simp only [rest.final_eq, Supply.afterIds, Supply.afterId]
          omega
        · simp [same, Supply.id]
      · obtain ⟨other, draw, drawFrom, drawTo, made⟩ := ih later
        exact ⟨other, draw, Nat.le_of_succ_le drawFrom, drawTo, made⟩

/-- Where no id is made twice, no two children are given the same id: each text is drawn
before all those of the children that follow. -/
theorem nodup_idsGiven (numbered : Numbered settings supply given completed final)
    (unrepeated : supply.Unrepeated settings final) :
    (idsGiven settings given completed).Nodup := by
  induction numbered with
  | done => exact List.nodup_nil
  | kept present _ ih =>
      rw [idsGiven_cons_of_hasId present]
      exact ih unrepeated
  | @filled supply final owner fields given completed absent rest ih =>
      rw [idsGiven_cons_of_not_hasId absent]
      have unrepeatedRest : supply.afterId.Unrepeated settings final := by
        intro first second firstFrom firstTo secondFrom secondTo
        exact unrepeated first second (Nat.le_of_succ_le firstFrom) firstTo
          (Nat.le_of_succ_le secondFrom) secondTo
      refine List.nodup_cons.2 ⟨?_, ih unrepeatedRest⟩
      intro again
      obtain ⟨other, draw, drawFrom, drawTo, made⟩ := rest.exists_drawn again
      rw [Record.id_put, if_pos rfl] at made
      have sameId : settings.makeId owner (supply.idAt supply.idsDrawn) =
          settings.makeId other (supply.idAt draw) := Value.text.inj (Option.some.inj made)
      have later : supply.idsDrawn < draw := drawFrom
      have sameDraw := unrepeated supply.idsDrawn draw (Nat.le_refl _)
        (Nat.lt_trans later drawTo) (Nat.le_of_lt later) drawTo owner other sameId
      omega

end Numbered

/-! ## Completing a record -/

/-- Completing gives an id to every child that has none, and reports how many these are.
Field by field and child by child nothing else is changed, and there is nothing left to
do a second time. No two of the ids are the same as long as no id is made twice, which is
so if no unique text is, all of one length where a name is put before them. -/
theorem assignChildIds_completes (settings : Settings) (supply : Supply)
    (drawn : ∀ draw, supply.idAt draw ≠ "") (record : Record) :
    let completed := assignChildIds settings supply record
    Record.ChildrenIdentified settings completed.1 ∧
      childIdsAssigned settings supply record =
        childrenWithoutId settings (record.children settings) ∧
      record.CompletedTo settings supply.idAt completed.1 ∧
      (∀ later, (assignChildIds settings later completed.1).1 = completed.1 ∧
        childIdsAssigned settings later completed.1 = 0) ∧
      (supply.Unrepeated settings completed.2 →
        (idsGiven settings (record.children settings)
          (Record.children settings completed.1)).Nodup) ∧
      (supply.DrawsApart completed.2 →
        (settings.idStrategy = .uuid ∨ ∃ length, ∀ draw, (supply.idAt draw).length = length) →
          (idsGiven settings (record.children settings)
            (Record.children settings completed.1)).Nodup) := by
  intro completed
  have identified : Record.ChildrenIdentified settings completed.1 :=
    childrenIdentified_assignChildIds drawn record
  have numbered := numbered_assignChildIds settings supply record
  have counted : childIdsAssigned settings supply record =
      childrenWithoutId settings (record.children settings) := by
    rw [childIdsAssigned, numbered.final_eq, Supply.afterIds, Nat.add_sub_cancel_left]
  refine ⟨identified, counted, completedTo_assignChildIds supply record, ?again,
    numbered.nodup_idsGiven, ?apart⟩
  case again =>
    intro later
    rw [childIdsAssigned, assignChildIds_of_identified identified later]
    exact ⟨rfl, Nat.sub_self _⟩
  case apart =>
    intro apart plain
    exact numbered.nodup_idsGiven (apart.unrepeated plain)

/-- Two items of an order lack ids, one of them with an empty text in its place. The id
of the order is itself a list here and is left alone. -/
theorem assignChildIds_completes_order :
    let settings : Settings := { idStrategy := .prefixed }
    let supply : Supply := ⟨fun draw => if draw = 0 then "a" else "b", fun _ => "t", 0, 0⟩
    let record : Record :=
      [("id", .list [.object []]),
        ("items", .list [.object [("id", .text "")], .object [("id", .number (.int 0))],
          .text "s", .object [("parts", .list [.object []])]])]
    let completed := assignChildIds settings supply record
    childIdsAssigned settings supply record = 2 ∧
      (idsGiven settings (record.children settings)
        (Record.children settings completed.1)).Nodup := by
  intro settings supply record completed
  have drawn : ∀ draw, supply.idAt draw ≠ "" := by
    intro draw
    by_cases first : draw = 0 <;> simp [supply, first]
  have even : ∀ draw, (supply.idAt draw).length = 1 := by
    intro draw
    simp only [supply]
    split <;> rfl
  have twice : completed.2.idsDrawn = 2 := rfl
  have drawsApart : supply.DrawsApart completed.2 := by
    intro first second _ firstTo _ secondTo same
    rw [twice] at firstTo secondTo
    by_cases firstZero : first = 0 <;> by_cases secondZero : second = 0 <;>
      simp [supply, firstZero, secondZero] at same <;> omega
  obtain ⟨_, counted, _, _, _, apart⟩ := assignChildIds_completes settings supply drawn record
  exact ⟨counted, apart drawsApart (.inr ⟨1, even⟩)⟩

end RecordQuery
