import RecordQuery.Proofs.SelectedFields
import RecordQuery.Proofs.Upsert

/-!
# The answer of an updating save

A save of a value with an id sends the adapter the selected fields and answers with the
whole value, stamped and with its children completed. The answer is the given value
with the written fields over it as long as no completed child was left out of the
selection; otherwise it holds ids that nobody gave and nothing stored.
-/

namespace RecordQuery

variable {settings : Settings}

/-! ## Overlays -/

/-- A record is another one with a patch written over it: each field is the patch's, or
else what was given. -/
def Record.Overlays (answered patch given : Record) : Prop :=
  ∀ field, answered.get? field = (patch.get? field).or (given.get? field)

/-- A record that has all fields of a given one is the given one with a selection of its
own fields written over it exactly when it agrees with the given one where the selection
leaves out a field. -/
theorem Selection.overlays_apply_iff (selection : Selection) {answered given : Record}
    (covers : ∀ field, answered.get? field = none → given.get? field = none) :
    answered.Overlays (selection.apply settings answered) given ↔
      ∀ field, field ≠ settings.idField → field ≠ settings.updatedAtField →
        ¬selection.names field → answered.get? field = given.get? field := by
  constructor
  · intro overlays field notId notUpdated unnamed
    have read := overlays field
    rw [get?_apply, if_neg (by simp [notId, notUpdated, unnamed]), Option.none_or] at read
    exact read
  · intro agree field
    rw [get?_apply]
    split
    · cases held : answered.get? field with
      | none => rw [covers field held, Option.none_or]
      | some value => rw [Option.some_or]
    · rename_i left
      obtain ⟨notId, notUpdated, unnamed⟩ := by simpa only [not_or] using left
      rw [Option.none_or]
      exact agree field notId notUpdated unnamed

/-- Among the fields that a selection leaves out, no child lacks an id. -/
def Selection.LeavesIdentified (selection : Selection) (settings : Settings) (record : Record) :
    Prop :=
  ∀ field, field ≠ settings.idField → field ≠ settings.updatedAtField →
    ¬selection.names field →
      ∀ value, record.get? field = some value → value.ChildrenIdentified settings

/-- A completed and stamped record is the given one with its selected fields written over
it exactly when what is not selected had nothing to complete. -/
theorem Selection.overlays_completed_iff (selection : Selection) {supply : Supply}
    (drawn : ∀ draw, supply.idAt draw ≠ "") (given : Record) (stamp : Value) :
    let answered : Record :=
      Keyed.put (assignChildIds settings supply given).1 settings.updatedAtField stamp
    answered.Overlays (selection.apply settings answered) given ↔
      selection.LeavesIdentified settings given := by
  intro answered
  have reads {field : String} (notUpdated : field ≠ settings.updatedAtField) :
      answered.get? field = Keyed.get? (assignChildIds settings supply given).1 field := by
    simp [answered, notUpdated.symm]
  have covers : ∀ field, answered.get? field = none → given.get? field = none := by
    intro field
    simp only [Keyed.get?_eq_none_iff, answered]
    intro absent member
    rw [← keys_assignChildIds supply given] at member
    exact absent ((Keyed.keys_prefix_put _ _ _).subset member)
  rw [selection.overlays_apply_iff covers]
  have unchanged_iff {field : String} (notId : field ≠ settings.idField)
      (notUpdated : field ≠ settings.updatedAtField) :
      answered.get? field = given.get? field ↔
        ∀ value, given.get? field = some value → value.ChildrenIdentified settings := by
    rw [reads notUpdated]
    exact get?_assignChildIds_eq_iff drawn given notId
  constructor
  · intro agree field notId notUpdated unnamed
    exact (unchanged_iff notId notUpdated).1 (agree field notId notUpdated unnamed)
  · intro identified field notId notUpdated unnamed
    exact (unchanged_iff notId notUpdated).2 (identified field notId notUpdated unnamed)

/-! ## Saves that succeed -/

/-- What comes of an engine that succeeds came of its first part, which succeeded. -/
theorem Engine.exists_of_bind_ok {α β : Type} {engine : Engine α} {next : α → Engine β}
    {world : World} {result : β} (succeeded : ((engine >>= next).runOn world).1 = .ok result) :
    ∃ value after, engine.runOn world = (.ok value, after) ∧
      (engine >>= next).runOn world = (next value).runOn after := by
  rw [runOn_bind] at succeeded ⊢
  rcases ran : engine.runOn world with ⟨error | value, after⟩ <;> rw [ran] at succeeded
  · cases succeeded
  · exact ⟨value, after, rfl, rfl⟩

namespace Session

variable {α : Type} {session : Session} {entity : Entity α} {selection : Selection}

/-- A save of a record with an id that succeeds sent one update, which matched, and
answers with the stamped record. -/
theorem exists_sent_saveStored {world : World} {record : Record} {id : Value}
    (held : Record.id session.settings record = some id)
    (notId : session.settings.updatedAtField ≠ session.settings.idField) {answer : α}
    (succeeded : ((session.saveStored entity selection record).runOn world).1 = .ok answer) :
    let stamped : Record := record.put session.settings.updatedAtField (.text world.supply.time)
    entity.fromRecord stamped = .ok answer ∧
      ∃ supply matched, matched ≠ 0 ∧
        (Engine.call (Adapter.update (session.savingUpdate entity selection id stamped))).runOn
            { world with supply } =
          (.ok matched, ((session.saveStored entity selection record).runOn world).2) := by
  have kept : Record.id session.settings
      (record.put session.settings.updatedAtField (.text world.supply.time)) = some id := by
    simpa [notId] using held
  rw [saveStored, Engine.runOn_bind, Engine.runOn_drawTime] at succeeded ⊢
  simp only [kept, Option.getD_some] at succeeded ⊢
  obtain ⟨matched, after, called, rest⟩ := Engine.exists_of_bind_ok succeeded
  rw [rest] at succeeded ⊢
  by_cases none : matched = 0
  · rw [if_pos none] at succeeded
    cases succeeded
  · rw [if_neg none] at succeeded ⊢
    exact ⟨succeeded, world.supply.afterTime, matched, none, called⟩

/-- A save of a value with an id that succeeds has sent one update, and its answer is the
given value with the patch of that update written over it exactly when, among the fields
that the selection leaves out, no child lacks an id. -/
theorem save_answer_overlays_iff (session : Session) (entity : Entity α) (world : World)
    (notId : session.settings.updatedAtField ≠ session.settings.idField)
    (lossless : entity.Lossless) (drawn : ∀ draw, world.supply.idAt draw ≠ "")
    (selection : Selection) (value : α) {fields : Record}
    (encoded : entity.encode value = .ok (.object fields)) (wellFormed : fields.WellFormed)
    {id : Value} (held : Record.id session.settings fields = some id)
    (present : Leaf.isPresentId (some id)) {answer : α}
    (succeeded : ((session.save entity value selection).runOn world).1 = .ok answer) :
    ∃ answered : Record, entity.encode answer = .ok (.object answered) ∧
      let sent := session.savingUpdate entity selection id answered
      (∃ supply matched, matched ≠ 0 ∧
        (Engine.call (Adapter.update sent)).runOn { world with supply } =
          (.ok matched, ((session.save entity value selection).runOn world).2)) ∧
      (answered.Overlays sent.patch fields ↔
        selection.LeavesIdentified session.settings fields) := by
  have sound : session.selectionProblem? entity selection = none := by
    cases problem : session.selectionProblem? entity selection with
    | none => rfl
    | some error =>
        rw [runOn_save_of_problem world problem] at succeeded
        cases succeeded
  have hasId : Record.hasId session.settings fields := by rwa [Record.hasId, held]
  let completed := assignChildIds session.settings world.supply fields
  have completedId : Record.id session.settings completed.1 = some id :=
    (id_assignChildIds world.supply fields).trans held
  rw [runOn_save world sound encoded, if_pos hasId] at succeeded ⊢
  obtain ⟨decoded, sent⟩ := exists_sent_saveStored completedId notId succeeded
  have completedFormed : Record.WellFormed completed.1 :=
    wellFormed_assignChildIds world.supply wellFormed
  obtain ⟨read, reads, reencoded⟩ := lossless.fromRecord
    (completedFormed.put session.settings.updatedAtField (.text completed.2.time))
  cases reads.symm.trans decoded
  exact ⟨_, reencoded, sent, selection.overlays_completed_iff drawn fields _⟩

/-- A document is saved but for its title. Its item is completed, and the completed item
is written, so the answer is the given document with the patch over it. -/
theorem save_answer_overlays_exceptTitle :
    let supply : Supply := ⟨fun _ => "u", fun _ => "t", 0, 0⟩
    let entity : Entity Value := ⟨"Doc", [], .ok, some⟩
    let adapter : Adapter := { store := { tables :=
      [("Doc", [("1", [("id", .text "1"), ("createdAt", .text "c")])])] } }
    let world : World := ⟨[("main", adapter)], "main", supply⟩
    let fields : Record := [("id", .text "1"), ("title", .text "t"),
      ("items", .list [.object [("sku", .text "s")]])]
    let selection : Selection := .except ["title"]
    let saved := (({} : Session).save entity (.object fields) selection).runOn world
    ∃ answered : Record, saved.1 = .ok (.object answered) ∧
      answered.Overlays
        (({} : Session).savingUpdate entity selection (.text "1") answered).patch fields := by
  intro supply entity adapter world fields selection saved
  have item : Record.WellFormed [("sku", .text "s")] := Record.WellFormed.nil.put "sku" (.text "s")
  have items : Value.WellFormed (.list [.object [("sku", .text "s")]]) := by
    apply Value.WellFormed.list
    intro child member
    cases List.mem_singleton.1 member
    exact item
  have wellFormed : fields.WellFormed :=
    ((Record.WellFormed.nil.put "id" (.text "1")).put "title" (.text "t")).put "items" items
  have identified : selection.LeavesIdentified {} fields := by
    intro field _ _ unnamed value held
    obtain rfl : field = "title" := by simpa [selection, Selection.names] using unnamed
    cases held
    exact nofun
  obtain ⟨answer, succeeded⟩ : ∃ answer, saved.1 = .ok answer := ⟨_, rfl⟩
  obtain ⟨answered, encoded, _, overlays⟩ := save_answer_overlays_iff {} entity world (by decide)
    (fun record _ => ⟨.object record, rfl, rfl⟩) (by simp [world, supply]) selection
    (.object fields) rfl wellFormed rfl rfl succeeded
  refine ⟨answered, ?_, overlays.2 identified⟩
  rw [succeeded, Except.ok.inj encoded]

/-- Only the title of a document is saved. The answer holds an id for the item, though no
id was given and the item is not written. -/
theorem not_save_answer_overlays :
    let supply : Supply := ⟨fun _ => "u", fun _ => "t", 0, 0⟩
    let entity : Entity Value := ⟨"Doc", [], .ok, some⟩
    let adapter : Adapter := { store := { tables :=
      [("Doc", [("1", [("id", .text "1"), ("createdAt", .text "c")])])] } }
    let world : World := ⟨[("main", adapter)], "main", supply⟩
    let fields : Record := [("id", .text "1"), ("title", .text "t"),
      ("items", .list [.object [("sku", .text "s")]])]
    let selection : Selection := .only ["title"]
    let saved := (({} : Session).save entity (.object fields) selection).runOn world
    Settings.Regular {} ∧ entity.Lossless ∧
      saved.2.activeAdapter.store.table "Doc" =
        [("1", [("id", .text "1"), ("createdAt", .text "c"), ("title", .text "t"),
          ("updatedAt", .text "t")])] ∧
      ∃ answered : Record, saved.1 = .ok (.object answered) ∧
        ¬answered.Overlays
          (({} : Session).savingUpdate entity selection (.text "1") answered).patch fields := by
  intro supply entity adapter world fields selection saved
  let answered : Record := [("id", .text "1"), ("title", .text "t"),
    ("items", .list [.object [("sku", .text "s"), ("id", .text "u")]]), ("updatedAt", .text "t")]
  have stored : saved.2.activeAdapter.store.table "Doc" =
      [("1", [("id", .text "1"), ("createdAt", .text "c"), ("title", .text "t"),
        ("updatedAt", .text "t")])] := by decide +kernel
  have answers : saved.1 = .ok (.object answered) := by decide +kernel
  refine ⟨.default, fun record _ => ⟨.object record, rfl, rfl⟩, stored, answered, answers, ?_⟩
  intro overlays
  have differs : answered.get? "items" ≠ ((({} : Session).savingUpdate entity selection
      (.text "1") answered).patch.get? "items").or (fields.get? "items") := by decide +kernel
  exact differs (overlays "items")

end Session

end RecordQuery
