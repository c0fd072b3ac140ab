import RecordQuery.Proofs.Tables
import RecordQuery.Proofs.Work

/-!
# Failed commands do not write

A command has many exits: its payload does not encode or is no object, its fields or
its filters are rejected, the adapter refuses the call or finds a conflict, nothing
matches, an answer does not decode. All of them leave every adapter as it was, with
one exception: what is stored before its answer is decoded stays stored. Creating and
saving therefore come apart into an engine that stores a row and the decoding of that
row.
-/

namespace RecordQuery

namespace World

/-- The active adapter can be put back. -/
theorem adapter_setAdapter_activeAdapter (world : World) :
    (world.setAdapter world.active world.activeAdapter).adapter = world.adapter := by
  funext slot
  by_cases same : world.active = slot
  · simp [← same, activeAdapter]
  · simp [same]

end World

/-! ## Calls -/

/-- A call that fails leaves the adapter as it was. -/
theorem DataCall.perform_of_error {α : Type} (call : DataCall α) {adapter : Adapter}
    {supply : Supply} {error : Error} (failed : (call.perform adapter supply).1 = .error error) :
    (call.perform adapter supply).2.1 = adapter := by
  cases call with
  | query | queryFirst | count => rfl
  | create spec =>
      simp only [perform, Adapter.create] at failed ⊢
      split
      · rfl
      · rename_i accepted
        rw [if_neg accepted] at failed
        rw [adapter.store.create_of_error failed]
  | update spec =>
      simp only [perform, Adapter.update] at failed ⊢
      split
      · rfl
      · rename_i accepted
        rw [if_neg accepted] at failed
        cases failed
  | delete spec =>
      simp only [perform, Adapter.delete] at failed ⊢
      split
      · rfl
      · rename_i accepted
        rw [if_neg accepted] at failed
        cases failed

/-- An update that matches nothing leaves the adapter as it was. -/
theorem Adapter.update_of_none {adapter : Adapter} {spec : UpdateSpec} {supply : Supply}
    (none : (Adapter.update spec adapter supply).1 = .ok 0) :
    (Adapter.update spec adapter supply).2.1 = adapter := by
  simp only [update] at none ⊢
  split
  · rfl
  · rename_i accepted
    rw [if_neg accepted] at none
    have empty : adapter.store.found spec.entity spec.filters = [] := by
      rw [← List.length_eq_zero_iff, ← adapter.store.update_fst spec supply.time]
      exact Except.ok.inj none
    rw [adapter.store.update_of_found_nil spec empty]

/-! ## Engines -/

namespace Engine

variable {α β : Type} {engine : Engine α} {next : α → Engine β}

/-- An engine never writes: it leaves every adapter as it was. -/
def ReadsOnly (engine : Engine α) : Prop :=
  ∀ adapters, Keeps (fun world => world.adapter = adapters) engine

/-- An engine does not write when it fails. -/
def FailsUnwritten (engine : Engine α) : Prop :=
  ∀ world error, (engine.runOn world).1 = .error error →
    (engine.runOn world).2.adapter = world.adapter

theorem ReadsOnly.failsUnwritten (reads : engine.ReadsOnly) : engine.FailsUnwritten :=
  fun world _ _ => reads world.adapter world rfl

theorem readsOnly_ofExcept (answer : Except Error α) : (ofExcept answer).ReadsOnly :=
  fun _ => keeps_ofExcept answer

theorem readsOnly_drawTime : drawTime.ReadsOnly := fun _ _ holds => holds

theorem readsOnly_completeChildren (settings : Settings) (record : Record) :
    (completeChildren settings record).ReadsOnly := fun _ _ holds => holds

theorem readsOnly_completeId (settings : Settings) (entity : String) (record : Record) :
    (completeId settings entity record).ReadsOnly := by
  intro adapters world holds
  rw [runOn_completeId]
  split <;> exact holds

theorem ReadsOnly.bind (first : engine.ReadsOnly) (second : ∀ value, (next value).ReadsOnly) :
    (engine >>= next).ReadsOnly :=
  fun adapters => keeps_bind (first adapters) fun value => second value adapters

/-- What goes before a write must not write itself. -/
theorem ReadsOnly.bind_failsUnwritten (first : engine.ReadsOnly)
    (second : ∀ value, (next value).FailsUnwritten) : (engine >>= next).FailsUnwritten := by
  intro world error failed
  have kept := first world.adapter world rfl
  rw [runOn_bind] at failed ⊢
  rcases ran : engine.runOn world with ⟨reason | value, after⟩ <;> rw [ran] at failed kept
  · exact kept
  · exact (second value after error failed).trans kept

/-- What goes after a write must not fail itself. -/
theorem FailsUnwritten.bind_succeeds (first : engine.FailsUnwritten)
    (succeeds : ∀ value world error, ((next value).runOn world).1 ≠ .error error) :
    (engine >>= next).FailsUnwritten := by
  intro world error failed
  have unwritten := first world
  rw [runOn_bind] at failed ⊢
  rcases ran : engine.runOn world with ⟨reason | value, after⟩ <;> rw [ran] at failed unwritten
  · exact unwritten reason rfl
  · exact absurd failed (succeeds value after error)

/-- Nothing succeeds after an answer that failed. -/
theorem exists_ok_of_ofExcept_bind {answer : Except Error α} {next : α → Engine β}
    {world after : World} {result : β}
    (succeeded : (ofExcept answer >>= next).runOn world = (.ok result, after)) :
    ∃ value, answer = .ok value ∧ (next value).runOn world = (.ok result, after) := by
  cases answer with
  | error reason => cases congrArg Prod.fst succeeded
  | ok value => exact ⟨value, rfl, succeeded⟩

theorem adapter_runOn_call {call : AdapterCall α} {world : World}
    (unchanged : (call world.activeAdapter world.supply).2.1 = world.activeAdapter) :
    ((Engine.call call).runOn world).2.adapter = world.adapter := by
  simp [unchanged, world.adapter_setAdapter_activeAdapter]

theorem readsOnly_call {call : AdapterCall α}
    (unchanged : ∀ adapter supply, (call adapter supply).2.1 = adapter) :
    (Engine.call call).ReadsOnly :=
  fun _ _ holds => (adapter_runOn_call (unchanged _ _)).trans holds

theorem failsUnwritten_call (call : DataCall α) : (Engine.call call.perform).FailsUnwritten :=
  fun _ _ failed => adapter_runOn_call (call.perform_of_error failed)

theorem failsUnwritten_create (spec : CreateSpec) :
    (Engine.call (Adapter.create spec)).FailsUnwritten := failsUnwritten_call (.create spec)

/-- An update whose matches are counted fails without writing, also where it is
made to fail because nothing matched. -/
theorem failsUnwritten_update_bind (spec : UpdateSpec) {next : Nat → Engine α}
    (reads : ∀ matched, (next matched).ReadsOnly)
    (succeeds : ∀ matched, matched ≠ 0 → ∀ world error,
      ((next matched).runOn world).1 ≠ .error error) :
    (Engine.call (Adapter.update spec) >>= next).FailsUnwritten := by
  intro world error failed
  rw [runOn_bind] at failed ⊢
  have unwritten := failsUnwritten_call (.update spec) world
  have noMatch : ((Engine.call (Adapter.update spec)).runOn world).1 = .ok 0 →
      ((Engine.call (Adapter.update spec)).runOn world).2.adapter = world.adapter :=
    fun none => adapter_runOn_call (Adapter.update_of_none none)
  simp only [DataCall.perform] at unwritten
  rcases ran : (Engine.call (Adapter.update spec)).runOn world with ⟨reason | matched, after⟩ <;>
    rw [ran] at failed unwritten noMatch
  · exact unwritten reason rfl
  · by_cases none : matched = 0
    · subst none
      exact (reads 0 after.adapter after rfl).trans (noMatch rfl)
    · exact absurd failed (succeeds matched none after error)

end Engine

/-! ## Storing and decoding -/

namespace Entity

variable {α : Type}

/-- The entity with its rows left as they are. -/
def asRows (entity : Entity α) : Entity Value where
  name := entity.name
  declared := entity.declared
  encode := .ok
  decode? := some

/-- A row as a value of the entity. -/
def read (entity : Entity α) (row : Value) : Except Error α :=
  match entity.decode? row with
  | some value => .ok value
  | none => .error .serialization

theorem read_error (entity : Entity α) {row : Value} {error : Error}
    (failed : entity.read row = .error error) :
    error = .serialization ∧ entity.decode? row = none := by
  rw [read] at failed
  split at failed
  · cases failed
  · rename_i undecoded
    exact ⟨(Except.error.inj failed).symm, undecoded⟩

end Entity

/-- Store a row, and decode it. -/
def Engine.decoding {α : Type} (storing : Engine Value) (entity : Entity α) : Engine α :=
  storing >>= fun row => ofExcept (entity.read row)

theorem Engine.runOn_decoding {α : Type} (storing : Engine Value) (entity : Entity α)
    (world : World) :
    (storing.decoding entity).runOn world =
      match storing.runOn world with
      | (.ok row, after) => (entity.read row, after)
      | (.error error, after) => (.error error, after) := by
  rw [decoding, runOn_bind]
  rcases storing.runOn world with ⟨_ | _, after⟩ <;> rfl

/-- If storing and decoding fails, then either nothing was written or the stored row
does not decode. -/
theorem Engine.failed_decoding {α : Type} {storing : Engine Value}
    (unwritten : storing.FailsUnwritten) {entity : Entity α} {world : World} {error : Error}
    (failed : ((storing.decoding entity).runOn world).1 = .error error) :
    let after := ((storing.decoding entity).runOn world).2
    after.adapter = world.adapter ∨
      error = .serialization ∧
        ∃ row, entity.decode? row = none ∧ storing.runOn world = (.ok row, after) := by
  have kept := unwritten world
  rw [runOn_decoding] at failed ⊢
  rcases ran : storing.runOn world with ⟨reason | row, after⟩ <;> rw [ran] at failed kept
  · exact .inl (kept reason rfl)
  · obtain ⟨serialization, undecoded⟩ := entity.read_error failed
    exact .inr ⟨serialization, row, undecoded, rfl⟩

namespace Session

variable {α : Type} (session : Session) (entity : Entity α)

theorem create_eq (payload : Payload) :
    session.create entity payload =
      (session.create entity.asRows payload).decoding entity := by
  simp only [create, Engine.decoding, bind_assoc]
  rfl

theorem saveStored_eq (selection : Selection) (record : Record) :
    session.saveStored entity selection record =
      (session.saveStored entity.asRows selection record).decoding entity := by
  simp only [saveStored, Engine.decoding, bind_assoc]
  congr 1
  funext now
  congr 1
  funext matched
  split <;> rfl

theorem saveFresh_eq (record : Record) :
    session.saveFresh entity record =
      (session.saveFresh entity.asRows record).decoding entity := by
  simp only [saveFresh, Engine.decoding, bind_assoc]
  rfl

theorem saveRecord_eq (selection : Selection) (record : Record) :
    session.saveRecord entity selection record =
      (session.saveRecord entity.asRows selection record).decoding entity := by
  simp only [saveRecord, Engine.decoding, bind_assoc]
  congr 1
  funext completed
  split
  · exact session.saveStored_eq entity selection completed
  · exact session.saveFresh_eq entity completed

/-- A save that leaves its row undecoded. -/
def saveRow (value : α) (selection : Selection) : Engine Value := do
  Engine.ofExcept (rejectIf (session.selectionProblem? entity selection))
  let record ← Engine.ofExcept (entity.toRecord value)
  session.saveRecord entity.asRows selection record

/-- A save stores its row without regard to how rows are decoded. -/
theorem save_eq (value : α) (selection : Selection) :
    session.save entity value selection =
      (session.saveRow entity value selection).decoding entity := by
  simp only [save, saveRow, Engine.decoding, bind_assoc]
  congr 1
  funext _
  congr 1
  funext record
  exact session.saveRecord_eq entity selection record

theorem failsUnwritten_create (payload : Payload) :
    (session.create entity.asRows payload).FailsUnwritten := by
  refine (Engine.readsOnly_ofExcept _).bind_failsUnwritten ?_
  intro data
  refine (Engine.failsUnwritten_create _).bind_succeeds ?_
  intro stored world error
  exact nofun

theorem failsUnwritten_saveStored (selection : Selection) (record : Record) :
    (session.saveStored entity.asRows selection record).FailsUnwritten := by
  refine Engine.readsOnly_drawTime.bind_failsUnwritten ?_
  intro now
  refine Engine.failsUnwritten_update_bind _ ?_ ?_
  · intro matched adapters
    dsimp only
    split
    · exact Engine.keeps_bind (Engine.keeps_throw _) fun _ => Engine.keeps_ofExcept _
    · exact Engine.keeps_ofExcept _
  · intro matched some world error
    dsimp only
    rw [if_neg some]
    exact nofun

theorem failsUnwritten_saveFresh (record : Record) :
    (session.saveFresh entity.asRows record).FailsUnwritten := by
  refine (Engine.readsOnly_completeId _ _ _).bind_failsUnwritten ?_
  intro identified
  refine Engine.readsOnly_drawTime.bind_failsUnwritten ?_
  intro now
  refine (Engine.failsUnwritten_create _).bind_succeeds ?_
  intro stored world error
  exact nofun

theorem failsUnwritten_saveRecord (selection : Selection) (record : Record) :
    (session.saveRecord entity.asRows selection record).FailsUnwritten := by
  refine (Engine.readsOnly_completeChildren _ _).bind_failsUnwritten ?_
  intro completed
  split
  · exact session.failsUnwritten_saveStored entity selection completed
  · exact session.failsUnwritten_saveFresh entity completed

theorem failsUnwritten_saveRow (value : α) (selection : Selection) :
    (session.saveRow entity value selection).FailsUnwritten := by
  refine (Engine.readsOnly_ofExcept _).bind_failsUnwritten ?_
  intro _
  refine (Engine.readsOnly_ofExcept _).bind_failsUnwritten ?_
  exact session.failsUnwritten_saveRecord entity selection

/-! ## Encoding comes first -/

theorem encoded_of_create {payload : Payload} {world after : World} {row : Value}
    (stored : (session.create entity.asRows payload).runOn world = (.ok row, after)) :
    ∃ fields, payload = .ok (.object fields) := by
  obtain ⟨fields, made, -⟩ := Engine.exists_ok_of_ofExcept_bind stored
  exact ⟨fields, eq_object_of_payloadRecord made⟩

theorem encoded_of_saveRow {value : α} {selection : Selection} {world after : World} {row : Value}
    (stored : (session.saveRow entity value selection).runOn world = (.ok row, after)) :
    ∃ fields, entity.encode value = .ok (.object fields) := by
  obtain ⟨_, -, stored⟩ := Engine.exists_ok_of_ofExcept_bind stored
  obtain ⟨fields, made, -⟩ := Engine.exists_ok_of_ofExcept_bind stored
  exact ⟨fields, eq_object_of_payloadRecord made⟩

/-! ## Reading -/

theorem readsOnly_records (builder : QueryBuilder) :
    (session.records entity builder).ReadsOnly :=
  (Engine.readsOnly_ofExcept _).bind fun _ => Engine.readsOnly_call fun _ _ => rfl

theorem readsOnly_first (builder : QueryBuilder) : (session.first entity builder).ReadsOnly := by
  refine (Engine.readsOnly_ofExcept _).bind ?_
  intro spec
  refine (Engine.readsOnly_call fun _ _ => rfl).bind ?_
  intro found adapters
  cases found with
  | none => exact Engine.keeps_pure none
  | some record => exact Engine.keeps_map some (Engine.keeps_ofExcept _)

theorem readsOnly_count (builder : QueryBuilder) : (session.count entity builder).ReadsOnly :=
  (Engine.readsOnly_ofExcept _).bind fun _ => Engine.readsOnly_call fun _ _ => rfl

end Session

/-! ## Commands -/

namespace Command

/-- One command, and not several in a row. -/
def IsSingle : {α : Type} → Command α → Prop
  | _, saveAll _ _ => False
  | _, _ => True

/-- A command stores a payload as a row of an entity and then decodes the row. What it
would do for another decoder comes along. -/
inductive Stores {α : Type} : Command α → Entity α → Payload → (Entity α → Command α) → Prop where
  | create (entity : Entity α) (payload : Payload) :
      Stores (.create entity payload) entity payload fun other => .create other payload
  | save (entity : Entity α) (value : α) (selection : Selection) :
      Stores (.save entity value selection) entity (entity.encode value) fun other =>
        .save other value selection

/-- What is stored does not depend on the decoder. Storing does not write when it fails,
and it fails if the payload does not encode. -/
theorem Stores.exists_storing {α : Type} {command : Command α} {entity : Entity α}
    {payload : Payload} {retyped : Entity α → Command α}
    (stores : command.Stores entity payload retyped) (session : Session) :
    ∃ storing : Engine Value, storing.FailsUnwritten ∧
      command.run session = storing.decoding entity ∧
      (∀ decode?, (retyped { entity with decode? }).run session =
        storing.decoding { entity with decode? }) ∧
      ∀ world row after, storing.runOn world = (.ok row, after) →
        ∃ fields, payload = .ok (.object fields) := by
  cases stores with
  | create entity payload =>
      exact ⟨session.create entity.asRows payload, session.failsUnwritten_create entity payload,
        session.create_eq entity payload,
        fun decode? => session.create_eq { entity with decode? } payload,
        fun _ _ _ => session.encoded_of_create entity⟩
  | save entity value selection =>
      exact ⟨session.saveRow entity value selection,
        session.failsUnwritten_saveRow entity value selection,
        session.save_eq entity value selection,
        fun decode? => session.save_eq { entity with decode? } value selection,
        fun _ _ _ => session.encoded_of_saveRow entity⟩

/-- Every other command does not write when it fails. -/
theorem stores_or_failsUnwritten {α : Type} (session : Session) (command : Command α)
    (single : command.IsSingle) :
    (∃ entity payload retyped, command.Stores entity payload retyped) ∨
      (command.run session).FailsUnwritten := by
  cases command with
  | create entity payload => exact .inl ⟨_, _, _, .create entity payload⟩
  | save entity value selection => exact .inl ⟨_, _, _, .save entity value selection⟩
  | saveAll => exact single.elim
  | update entity builder =>
      refine .inr (Engine.readsOnly_drawTime.bind_failsUnwritten ?_)
      intro now
      refine (Engine.readsOnly_ofExcept _).bind_failsUnwritten ?_
      intro spec
      exact Engine.failsUnwritten_call (.update spec)
  | remove entity set =>
      refine .inr ((Engine.readsOnly_ofExcept _).bind_failsUnwritten ?_)
      intro spec
      exact Engine.failsUnwritten_call (.delete spec)
  | records entity builder => exact .inr (session.readsOnly_records entity builder).failsUnwritten
  | execute entity builder =>
      refine .inr (Engine.ReadsOnly.failsUnwritten ?_)
      refine (session.readsOnly_records entity builder).bind ?_
      intro result
      exact (Engine.readsOnly_ofExcept _).bind fun data _ => Engine.keeps_pure _
  | first entity builder => exact .inr (session.readsOnly_first entity builder).failsUnwritten
  | count entity builder => exact .inr (session.readsOnly_count entity builder).failsUnwritten
  | anyMatch entity builder =>
      refine .inr (Engine.ReadsOnly.failsUnwritten ?_)
      exact (session.readsOnly_count entity builder).bind fun found _ => Engine.keeps_pure _
  | findById entity id => exact .inr (session.readsOnly_first entity _).failsUnwritten
  | findByIdOrThrow entity id =>
      refine .inr (Engine.ReadsOnly.failsUnwritten ?_)
      refine (session.readsOnly_first entity (session.byId id)).bind ?_
      intro found adapters
      cases found with
      | none => exact Engine.keeps_throw _
      | some value => exact Engine.keeps_pure value

/-- A command that fails leaves every adapter as it was, also where its payload does
not encode. The one exception is a creation or a save whose payload was encoded, as an
object, and whose row is stored and then does not decode: it leaves what the same
command leaves for any other decoder, in particular for one that would have made it
succeed. -/
theorem failed_unwritten {α : Type} (session : Session) (command : Command α) (world : World)
    {error : Error} (single : command.IsSingle)
    (failed : ((command.run session).runOn world).1 = .error error) :
    let after := ((command.run session).runOn world).2
    after.adapter = world.adapter ∨
      error = .serialization ∧
        ∃ (entity : Entity α) (fields : Record) (retyped : Entity α → Command α) (row : Value),
          command.Stores entity (.ok (.object fields)) retyped ∧ entity.decode? row = none ∧
            ∀ decode?, ((retyped { entity with decode? }).run session).runOn world =
              (Entity.read { entity with decode? } row, after) := by
  intro after
  rcases command.stores_or_failsUnwritten session single with
    ⟨entity, payload, retyped, stores⟩ | unwritten
  · obtain ⟨storing, unwritten, same, retypes, encoded⟩ := stores.exists_storing session
    rw [same] at failed
    rcases Engine.failed_decoding unwritten failed with
      unchanged | ⟨serialization, row, undecoded, stored⟩
    · refine .inl ?_
      rwa [← same] at unchanged
    · obtain ⟨fields, rfl⟩ := encoded _ _ _ stored
      rw [← same] at stored
      refine .inr ⟨serialization, entity, fields, retyped, row, stores, undecoded, ?_⟩
      intro decode?
      rw [retypes, Engine.runOn_decoding, stored]
  · exact .inl (unwritten world error failed)

/-- A creation under a taken id changes nothing, and neither does one whose payload does
not encode. A creation whose row is stored and then does not decode leaves what it
leaves if the row does decode. -/
theorem failed_unwritten_creations :
    let unreadable : Entity Value := ⟨"Item", [], .ok, fun _ => none⟩
    let readable : Entity Value := ⟨"Item", [], .ok, some⟩
    let row : Record := [("id", .text "1"), ("createdAt", .text "c")]
    let world : World :=
      { adapters := [("main", { store := { tables := [("Item", [("1", row)])] } })]
        active := "main"
        supply := ⟨fun _ => "u", fun _ => "t", 0, 0⟩ }
    let taken := ((create unreadable (.ok (.object row))).run {}).runOn world
    let unencoded := ((create readable (.error "key must be a string")).run {}).runOn world
    let stored := ((create unreadable (.ok (.object []))).run {}).runOn world
    taken.1 = .error (.conflict "Item" "1") ∧ taken.2.adapter = world.adapter ∧
      unencoded.1 = .error .serialization ∧ unencoded.2.adapter = world.adapter ∧
      stored.1 = .error .serialization ∧
      ((create readable (.ok (.object []))).run {}).runOn world =
        (.ok (.object [("id", .text "u"), ("createdAt", .text "t")]), stored.2) := by
  intro unreadable readable row world taken unencoded stored
  have conflict : taken.1 = .error (.conflict "Item" "1") := by rfl
  have unmade : unencoded.1 = .error .serialization := by rfl
  have undecoded : stored.1 = .error .serialization := by rfl
  refine ⟨conflict, ?_, unmade, ?_, undecoded, ?_⟩
  · rcases failed_unwritten {} (create unreadable (.ok (.object row))) world trivial conflict with
      unchanged | ⟨impossible, -⟩
    · exact unchanged
    · cases impossible
  · rcases failed_unwritten {} (create readable (.error "key must be a string")) world trivial
      unmade with unchanged | ⟨-, entity, fields, retyped, written, stores, -⟩
    · exact unchanged
    · cases stores
  · rcases failed_unwritten {} (create unreadable (.ok (.object []))) world trivial undecoded with
      unchanged | ⟨-, entity, fields, retyped, written, stores, -, decoding⟩
    · have grown : 2 = 1 :=
        congrArg (fun adapters => ((adapters "main").store.table "Item").length) unchanged
      cases grown
    · cases stores
      have left := congrArg Prod.snd (decoding some)
      exact Prod.ext rfl left

end Command

end RecordQuery
