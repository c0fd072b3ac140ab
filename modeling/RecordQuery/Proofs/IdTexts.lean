import RecordQuery.Proofs.Saving

/-!
# Ids as texts and as values

A store keeps its rows under the texts of their ids, while lookups and saves ask
for rows whose id is an equal value. Two texts are equal as they are the same, and
so are two integers, but a text and a number can have one text without being equal,
and an integer and a float can be equal without having one text. Where the two
notions part, creations and lookups disagree, and a save misses the row that it
names or touches others.
-/

namespace RecordQuery

/-! ## Where the two notions agree -/

/-- Equality of a stored id with a given one goes with equality of their texts. -/
def Value.AgreesAsId (stored given : Value) : Prop :=
  stored.equal given ↔ Leaf.idText (some stored) = Leaf.idText (some given)

theorem decimalDigits_inj {left right : Nat} :
    decimalDigits left = decimalDigits right ↔ left = right := by
  constructor
  · intro same
    have read := congrArg (fun digits => Nat.ofDigitChars 10 digits 0) same
    simpa [decimalDigits, Nat.ofDigitChars_toDigits] using read
  · exact congrArg decimalDigits

/-- Digits do not start with a sign. -/
theorem minus_cons_ne_decimalDigits (rest : List Char) (value : Nat) :
    '-' :: rest ≠ decimalDigits value := by
  intro same
  have member : '-' ∈ decimalDigits value := by
    rw [← same]
    exact List.mem_cons_self
  have digit := Nat.isDigit_of_mem_toDigits (by decide) (by decide) member
  simp at digit

/-- Different integers are written differently. -/
theorem Number.write_int_inj {left right : Int} :
    (Number.int left).write = (Number.int right).write ↔ left = right := by
  refine ⟨?_, congrArg fun value => (Number.int value).write⟩
  intro same
  simp only [write] at same
  split at same <;> split at same
  · have digits := decimalDigits_inj.1 (List.append_cancel_left same)
    omega
  · exact absurd same (minus_cons_ne_decimalDigits _ _)
  · exact absurd same.symm (minus_cons_ne_decimalDigits _ _)
  · have digits := decimalDigits_inj.1 same
    omega

theorem Value.agreesAsId_int (stored given : Int) :
    (Value.number (.int stored)).AgreesAsId (.number (.int given)) := by
  have written : Leaf.idText (some (.number (.int stored))) =
      Leaf.idText (some (.number (.int given))) ↔ stored = given := by
    simp [Leaf.idText, compact, Json.write, String.ofList_inj, Number.write_int_inj]
  rw [AgreesAsId, written]
  simp [equal, Number.compare?]

/-! ## Finding the row that an id names -/

namespace Store

variable {settings : Settings} {store : Store} {entity : String}

theorem mem_found_idEquals (regular : settings.Regular) {id : Value} {key : String}
    {row : Record} :
    (key, row) ∈ store.found entity [settings.idEquals id] ↔
      (key, row) ∈ store.table entity ∧ (Record.id settings row).any (·.equal id) := by
  rw [← Filter.allHold_idEquals regular]
  exact List.mem_filter

/-- The rows with an id equal to a given one are the row under the text of that id,
exactly when it agrees with all ids in the table. -/
theorem found_idEquals_iff (regular : settings.Regular)
    (wellKeyed : Table.WellKeyed settings (store.table entity)) (id : Value) :
    store.found entity [settings.idEquals id] =
        (((store.table entity).get? (Leaf.idText (some id))).map
          fun row => (Leaf.idText (some id), row)).toList ↔
      ∀ row ∈ store.rows entity, ∀ stored,
        Record.id settings row = some stored → stored.AgreesAsId id := by
  constructor
  · -- A row whose id disagrees is found under another key, or is missed under this one.
    intro named _ member stored held
    obtain ⟨⟨key, row⟩, present, rfl⟩ := List.mem_map.1 member
    have found : (key, row) ∈ store.found entity [settings.idEquals id] ↔ stored.equal id := by
      simp [mem_found_idEquals regular, present, held]
    rw [Value.AgreesAsId, (wellKeyed.fits key row present).idText_eq held, ← found, named]
    constructor
    · intro selected
      obtain ⟨_, _, same⟩ := Option.map_eq_some_iff.1 (Option.mem_toList.1 selected)
      exact (congrArg Prod.fst same).symm
    · intro same
      have placed := Keyed.get?_of_mem wellKeyed.distinct present
      simp [← same, placed]
  · intro agree
    have agrees {key : String} {row : Record} (member : (key, row) ∈ store.table entity) :
        Filter.allHold row [settings.idEquals id] ↔ key = Leaf.idText (some id) := by
      have fits := wellKeyed.fits key row member
      obtain ⟨stored, held⟩ := fits.exists_id
      have agreed := agree row (List.mem_map_of_mem member) stored held
      rw [Value.AgreesAsId, fits.idText_eq held] at agreed
      simpa [Filter.allHold_idEquals regular, held] using agreed
    rw [found, Keyed.filter_eq_of_key wellKeyed.distinct _ fun entry member => (agrees member).1]
    apply List.filter_eq_self.2
    intro entry selected
    obtain ⟨row, placed, same⟩ := Option.map_eq_some_iff.1 (Option.mem_toList.1 selected)
    cases same
    exact (agrees (Keyed.mem_of_get? placed)).2 rfl

end Store

/-! ## Creating -/

/-- A creation with an id of its own stores the row under the text of that id. -/
theorem Store.key_prepared {store : Store}
    (apart : store.settings.createdAtField ≠ store.settings.idField) {spec : CreateSpec}
    (present : Record.hasId store.settings spec.data) (unique now : String) :
    Record.key store.settings (store.prepared spec unique now) =
      Record.key store.settings spec.data := by
  rw [prepared, Record.ensureId, if_pos present, Record.key, Record.id_stampIfAbsent apart,
    Record.key]

/-- Reading a row as a value of an entity fails in one way only. -/
theorem Entity.fromRecord_error {α : Type} {entity : Entity α} {record : Record} {error : Error}
    (failed : entity.fromRecord record = .error error) : error = .serialization := by
  rw [fromRecord] at failed
  split at failed <;> cases failed
  rfl

namespace Session

variable {α : Type}

/-- Creating a row with a text for its id conflicts when the text is a key in use. -/
theorem create_conflicts_iff (session : Session) (entity : Entity α) (world : World)
    (regular : session.settings.Regular)
    (reachable : world.activeAdapter.Reachable session.settings) {fields : Record} {text : String}
    (nonempty : text ≠ "") (held : Record.id session.settings fields = some (.text text)) :
    ((session.create entity (.ok (.object fields))).runOn world).1 =
        .error (.conflict entity.name text) ↔
      (world.activeAdapter.store.table entity.name).has text := by
  have settings_eq := reachable.settings_eq
  have present : Record.hasId world.activeAdapter.store.settings fields := by
    simpa [Record.hasId, settings_eq, held, Leaf.isPresentId] using nonempty
  have key : Record.key world.activeAdapter.store.settings
      (world.activeAdapter.store.prepared ⟨entity.name, fields⟩ world.supply.id
        world.supply.time) = text := by
    rw [Store.key_prepared (settings_eq ▸ Ne.symm regular.idField_ne_createdAt) present, Record.key,
      settings_eq, held]
    rfl
  have called := Adapter.create_of_memory reachable.memory ⟨entity.name, fields⟩ world.supply
  simp only [Store.create, key] at called
  by_cases taken : (world.activeAdapter.store.table entity.name).has text
  · simp [create, called, taken]
  · have notConflict : entity.fromRecord (world.activeAdapter.store.prepared
        ⟨entity.name, fields⟩ world.supply.id world.supply.time) ≠
          .error (.conflict entity.name text) := by
      intro failed
      cases Entity.fromRecord_error failed
    simp [create, called, taken, notConflict]

/-- Creating a row with a text for its id conflicts if and only if looking up the
text just before finds a row, exactly when no row is kept under that text with an
id that is not the text itself. -/
theorem create_conflicts_iff_found (session : Session) (entity : Entity α) (world : World)
    (regular : session.settings.Regular)
    (reachable : world.activeAdapter.Reachable session.settings)
    (decodes : ∀ record, ∃ value, entity.decode? (.object record) = some value)
    {fields : Record} {text : String} (nonempty : text ≠ "")
    (held : Record.id session.settings fields = some (.text text)) :
    let looked := (session.findById entity text).runOn world
    let created := (session.create entity (.ok (.object fields))).runOn looked.2
    (created.1 = .error (.conflict entity.name text) ↔ ∃ value, looked.1 = .ok (some value)) ↔
      ∀ row, (world.activeAdapter.store.table entity.name).get? text = some row →
        Record.id session.settings row = some (.text text) := by
  intro looked created
  have found : looked = _ := session.runOn_findById entity regular reachable text
  have active : looked.2.activeAdapter = world.activeAdapter := by
    simp [found]
  have conflicts := session.create_conflicts_iff entity looked.2 regular
    (by rwa [active]) nonempty held
  rw [active] at conflicts
  rw [conflicts, Keyed.has, found]
  cases placed : (world.activeAdapter.store.table entity.name).get? text with
  | none => simp
  | some row =>
      obtain ⟨value, decoded⟩ := decodes row
      by_cases same : Record.id session.settings row = some (.text text)
      · simp [same, Entity.fromRecord, decoded, Except.map]
      · simp [same]

/-- With a text for the id of the stored row, creation and lookup agree. -/
theorem create_conflicts_iff_found_text :
    let supply : Supply := ⟨fun _ => "u", fun _ => "t", 0, 0⟩
    let entity : Entity Value := ⟨"Doc", [], .ok, some⟩
    let requests : List AdapterRequest := [.data (.create ⟨"Doc", [("id", .text "7")]⟩)]
    let adapter := (AdapterRequest.runAll requests { store := { settings := {} } } supply).1
    let world : World := ⟨[("main", adapter)], "main", supply⟩
    let looked := (({} : Session).findById entity "7").runOn world
    let created := (({} : Session).create entity (.ok (.object [("id", .text "7")]))).runOn looked.2
    created.1 = .error (.conflict "Doc" "7") ↔ ∃ value, looked.1 = .ok (some value) := by
  intro supply entity requests adapter world looked created
  have reachable : adapter.Reachable {} :=
    (Adapter.Reachable.empty .placing).runAll (by simp [supply]) requests
  refine (create_conflicts_iff_found {} entity world .default reachable
    (fun record => ⟨.object record, rfl⟩) (by decide) rfl).2 ?_
  have placed : (adapter.store.table "Doc").get? "7" =
      some [("id", .text "7"), ("createdAt", .text "t")] := by decide +kernel
  intro row present
  cases placed.symm.trans present
  rfl

/-- A row whose id is the number `7` is kept under the text `"7"`. Looking up that
text does not find the row, yet creating a row with that id conflicts. -/
theorem not_create_conflicts_iff_found :
    let supply : Supply := ⟨fun _ => "u", fun _ => "t", 0, 0⟩
    let entity : Entity Value := ⟨"Doc", [], .ok, some⟩
    let requests : List AdapterRequest := [.data (.create ⟨"Doc", [("id", .number (.int 7))]⟩)]
    let adapter := (AdapterRequest.runAll requests { store := { settings := {} } } supply).1
    let world : World := ⟨[("main", adapter)], "main", supply⟩
    let looked := (({} : Session).findById entity "7").runOn world
    let created := (({} : Session).create entity (.ok (.object [("id", .text "7")]))).runOn looked.2
    Settings.Regular {} ∧ adapter.Reachable {} ∧
      ¬(created.1 = .error (.conflict "Doc" "7") ↔ ∃ value, looked.1 = .ok (some value)) := by
  intro supply entity requests adapter world looked created
  have conflict : created.1 = .error (.conflict "Doc" "7") := by decide +kernel
  have missed : looked.1 = .ok none := by decide +kernel
  refine ⟨.default, (Adapter.Reachable.empty .placing).runAll (by simp [supply]) requests, ?_⟩
  intro agree
  obtain ⟨value, found⟩ := agree.1 conflict
  cases missed.symm.trans found

end Session

/-! ## Saving -/

namespace Session

variable {α : Type}

/-- A save of a value with an id touches the row that the id names and no other:
that row alone is found, and it is changed in its place; or there is no such row,
and the save fails and changes nothing. -/
def SavesNamed (session : Session) (entity : Entity α) (store : Store) (id : Value)
    (answer : Except Error α) (after : Store) : Prop :=
  let table := store.table entity.name
  let key := Leaf.idText (some id)
  (∃ row changed, table.get? key = some row ∧
      store.found entity.name [session.settings.idEquals id] = [(key, row)] ∧
      after = store.setTable entity.name (table.put key changed)) ∨
    (table.get? key = none ∧ answer = .error (.notFound entity.name key) ∧ after = store)

theorem savesNamed_update_iff (session : Session) (entity : Entity α) {store : Store}
    (distinct : Keyed.Distinct (store.table entity.name)) (selection : Selection) (id : Value)
    (record : Record) (now : String) :
    let changed := store.update (session.savingUpdate entity selection id record) now
    let key := Leaf.idText (some id)
    session.SavesNamed entity store id
        (if changed.1 = 0 then .error (.notFound entity.name key) else entity.fromRecord record)
        changed.2 ↔
      store.found entity.name [session.settings.idEquals id] =
        (((store.table entity.name).get? key).map fun row => (key, row)).toList := by
  intro changed key
  have counted : changed.1 = (store.found entity.name [session.settings.idEquals id]).length :=
    store.update_fst (session.savingUpdate entity selection id record) now
  cases held : (store.table entity.name).get? key with
  | none =>
      constructor
      · rintro (⟨row, _, placed, _⟩ | ⟨_, failed, _⟩)
        · rw [held] at placed
          cases placed
        · split at failed
          · rename_i none
            exact List.length_eq_zero_iff.1 (counted ▸ none)
          · cases Entity.fromRecord_error failed
      · intro none
        have unchanged : changed = (0, store) := store.update_of_found_nil _ none now
        rw [unchanged]
        exact .inr ⟨held, if_pos rfl, rfl⟩
  | some row =>
      constructor
      · rintro (⟨_, _, placed, found, _⟩ | ⟨missing, _, _⟩)
        · rw [held] at placed
          cases placed
          exact found
        · rw [held] at missing
          cases missing
      · intro found
        have patched := store.update_of_found_singleton
          (session.savingUpdate entity selection id record) distinct found now
        exact .inl ⟨row, _, held, found, congrArg Prod.snd patched⟩

section Saves

variable {session : Session} {entity : Entity α} {world : World}
  (regular : session.settings.Regular)
  (reachable : world.activeAdapter.Reachable session.settings)
  {value : α} {fields : Record} (encoded : entity.encode value = .ok (.object fields))
  {selection : Selection} (sound : session.selectionProblem? entity selection = none)

include regular reachable encoded sound

/-- What a save touches is decided by how the id compares with those in the store. -/
theorem savesNamed_iff {id : Value} (held : Record.id session.settings fields = some id)
    (present : Leaf.isPresentId (some id)) :
    let store := world.activeAdapter.store
    let saved := (session.save entity value selection).runOn world
    session.SavesNamed entity store id saved.1 saved.2.activeAdapter.store ↔
      ∀ row ∈ store.rows entity.name, ∀ stored,
        Record.id session.settings row = some stored → stored.AgreesAsId id := by
  intro store saved
  have wellKeyed := reachable.table regular entity.name
  have hasId : Record.hasId session.settings fields := by rwa [Record.hasId, held]
  have completedId := (id_assignChildIds world.supply fields).trans held
  have ran : saved = _ := runOn_save world sound encoded
  simp only [hasId, if_true, runOn_saveStored world reachable.memory _ completedId
    regular.idField_ne_updatedAt] at ran
  rw [ran, World.activeAdapter_withStore, ← store.found_idEquals_iff regular wellKeyed]
  exact session.savesNamed_update_iff entity wellKeyed.distinct selection id _ _

end Saves

/-- Saving a value with an id touches the row that the id names and no other exactly
when the id agrees with every id stored for the entity. A save that selects
unknown fields touches nothing. -/
theorem save_touches_named_iff (session : Session) (entity : Entity α) (world : World)
    (regular : session.settings.Regular)
    (reachable : world.activeAdapter.Reachable session.settings)
    (value : α) (selection : Selection) {fields : Record} {id : Value}
    (encoded : entity.encode value = .ok (.object fields))
    (held : Record.id session.settings fields = some id) (present : Leaf.isPresentId (some id)) :
    let store := world.activeAdapter.store
    let saved := (session.save entity value selection).runOn world
    (∀ error, session.selectionProblem? entity selection = some error →
        saved = (.error error, world)) ∧
      (session.selectionProblem? entity selection = none →
        (session.SavesNamed entity store id saved.1 saved.2.activeAdapter.store ↔
          ∀ row ∈ store.rows entity.name, ∀ stored,
            Record.id session.settings row = some stored → stored.AgreesAsId id)) := by
  intro store saved
  constructor
  · intro error problem
    exact runOn_save_of_problem world problem value
  · intro sound
    exact savesNamed_iff regular reachable encoded sound held present

/-- A row with an integer id is all that a save with that id touches, if the other
row's id is an integer too. -/
theorem save_touches_named_integer :
    let supply : Supply := ⟨fun _ => "u", fun _ => "t", 0, 0⟩
    let entity : Entity Value := ⟨"Doc", [], .ok, some⟩
    let requests : List AdapterRequest :=
      [.data (.create ⟨"Doc", [("id", .number (.int 1))]⟩),
        .data (.create ⟨"Doc", [("id", .number (.int 2))]⟩)]
    let adapter := (AdapterRequest.runAll requests { store := { settings := {} } } supply).1
    let world : World := ⟨[("main", adapter)], "main", supply⟩
    let value : Value := .object [("id", .number (.int 1)), ("n", .null)]
    let saved := (({} : Session).save entity value .whole).runOn world
    ({} : Session).SavesNamed entity world.activeAdapter.store (.number (.int 1)) saved.1
      saved.2.activeAdapter.store := by
  intro supply entity requests adapter world value
  have reachable : adapter.Reachable {} :=
    (Adapter.Reachable.empty .placing).runAll (by simp [supply]) requests
  have rows : world.activeAdapter.store.rows entity.name =
      [[("id", .number (.int 1)), ("createdAt", .text "t")],
        [("id", .number (.int 2)), ("createdAt", .text "t")]] := by decide +kernel
  have agree : ∀ row ∈ world.activeAdapter.store.rows entity.name, ∀ stored,
      Record.id {} row = some stored → stored.AgreesAsId (.number (.int 1)) := by
    rw [rows]
    intro row member stored held
    rcases List.mem_cons.1 member with first | second
    · cases first
      cases held
      exact Value.agreesAsId_int 1 1
    · cases List.mem_singleton.1 second
      cases held
      exact Value.agreesAsId_int 2 1
  have touches := save_touches_named_iff {} entity world .default reachable value .whole
    rfl rfl rfl
  exact (touches.2 rfl).2 agree

/-- The integer `1` and the float `1.0` are equal and stand for two keys, so a save
with one of them changes the row of the other as well. -/
theorem not_save_touches_named :
    let supply : Supply := ⟨fun _ => "u", fun _ => "t", 0, 0⟩
    let entity : Entity Value := ⟨"Doc", [], .ok, some⟩
    let one : Double := ⟨false, ⟨0x3FF0000000000000, by decide⟩⟩
    let requests : List AdapterRequest :=
      [.data (.create ⟨"Doc", [("id", .number (.int 1))]⟩),
        .data (.create ⟨"Doc", [("id", .number (.float one))]⟩)]
    let adapter := (AdapterRequest.runAll requests { store := { settings := {} } } supply).1
    let world : World := ⟨[("main", adapter)], "main", supply⟩
    let value : Value := .object [("id", .number (.int 1)), ("n", .number (.int 5))]
    let saved := (({} : Session).save entity value .whole).runOn world
    Settings.Regular {} ∧ adapter.Reachable {} ∧
      ¬({} : Session).SavesNamed entity adapter.store (.number (.int 1)) saved.1
        saved.2.activeAdapter.store := by
  intro supply entity one requests adapter world value saved
  refine ⟨.default, (Adapter.Reachable.empty .placing).runAll (by simp [supply]) requests, ?_⟩
  have both : (adapter.store.found "Doc" [Settings.idEquals {} (.number (.int 1))]).length = 2 := by
    decide +kernel
  have kept : (adapter.store.table "Doc").has "1" := by decide +kernel
  rintro (⟨row, changed, _, found, _⟩ | ⟨missing, _⟩)
  · rw [show adapter.store.found "Doc" _ = _ from found] at both
    cases both
  · rw [Keyed.has, show (adapter.store.table "Doc").get? "1" = none from missing] at kept
    cases kept

end Session

end RecordQuery
