import RecordQuery.Proofs.Invariant
import RecordQuery.Session

/-!
# Work on a session

Programs over the commands of a session, as data: a program issues commands,
swaps adapters and opens transactions, sees every answer and goes on as it likes,
also after a failure. What holds of every program holds of every work that a
transaction can be given.
-/

namespace RecordQuery

/-- A command of a session, with the type of its answer. -/
inductive Command : Type → Type 1 where
  | create {α : Type} (entity : Entity α) (payload : Payload) : Command α
  | save {α : Type} (entity : Entity α) (value : α) (selection : Selection) : Command α
  | saveAll {α : Type} (entity : Entity α) (values : List α) : Command (List α)
  | update {α : Type} (entity : Entity α) (builder : UpdateBuilder) : Command Nat
  | remove {α : Type} (entity : Entity α) (set : FilterSet) : Command Nat
  | records {α : Type} (entity : Entity α) (builder : QueryBuilder) : Command (QueryResult Record)
  | execute {α : Type} (entity : Entity α) (builder : QueryBuilder) : Command (QueryResult α)
  | first {α : Type} (entity : Entity α) (builder : QueryBuilder) : Command (Option α)
  | count {α : Type} (entity : Entity α) (builder : QueryBuilder) : Command Nat
  | anyMatch {α : Type} (entity : Entity α) (builder : QueryBuilder) : Command Bool
  | findById {α : Type} (entity : Entity α) (id : String) : Command (Option α)
  | findByIdOrThrow {α : Type} (entity : Entity α) (id : String) : Command α

/-- Carry out a command. -/
def Command.run {α : Type} (session : Session) : Command α → Engine α
  | create entity payload => session.create entity payload
  | save entity value selection => session.save entity value selection
  | saveAll entity values => session.saveAll entity values
  | update entity builder => session.update entity builder
  | remove entity set => session.remove entity set
  | records entity builder => session.records entity builder
  | execute entity builder => session.execute entity builder
  | first entity builder => session.first entity builder
  | count entity builder => session.count entity builder
  | anyMatch entity builder => session.anyMatch entity builder
  | findById entity id => session.findById entity id
  | findByIdOrThrow entity id => session.findByIdOrThrow entity id

namespace Engine

variable {α β : Type}

/-- Run an engine and go on with its answer, whether it succeeded or failed. -/
def andThen (engine : Engine α) (next : Except Error α → Engine β) : Engine β :=
  ofFunction fun world =>
    let (answer, after) := engine.runOn world
    (next answer).runOn after

/-- Put an adapter into an empty slot. A slot in use keeps its adapter. -/
def install (slot : String) (adapter : Adapter) : Engine Unit := ofFunction fun world =>
  (.ok (), if world.adapters.has slot then world else world.setAdapter slot adapter)

theorem keeps_andThen {invariant : World → Prop} {engine : Engine α}
    {next : Except Error α → Engine β} (first : Keeps invariant engine)
    (second : ∀ answer, Keeps invariant (next answer)) : Keeps invariant (engine.andThen next) :=
  fun world holds => second _ _ (first world holds)

end Engine

/-- A program that ends with an outcome after any number of steps. -/
inductive Work : Type → Type 1 where
  | done {α : Type} (outcome : Except Error α) : Work α
  | issue {α β : Type} (command : Command β) (next : Except Error β → Work α) : Work α
  | install {α : Type} (slot : String) (adapter : Adapter)
      (next : Except Error Unit → Work α) : Work α
  | swap {α : Type} (slot : String) (next : Except Error String → Work α) : Work α
  | transaction {α β : Type} (inner : Work β) (next : Except Error β → Work α) : Work α

namespace Work

/-- Carry out a program. -/
def run (session : Session) : {α : Type} → Work α → Engine α
  | _, done outcome => .ofExcept outcome
  | _, issue command next => (command.run session).andThen fun answer => (next answer).run session
  | _, install slot adapter next =>
      (Engine.install slot adapter).andThen fun answer => (next answer).run session
  | _, swap slot next => (Engine.swap slot).andThen fun answer => (next answer).run session
  | _, transaction inner next =>
      (Engine.transaction (inner.run session)).andThen fun answer => (next answer).run session

/-- A program started in one world gets to a point where another program is left
to be carried out in another world. Points inside a nested transaction count. -/
inductive Reaches (session : Session) :
    {α β : Type} → Work α → World → Work β → World → Prop where
  | here {α : Type} (work : Work α) (world : World) : Reaches session work world work world
  | issue {α β γ : Type} {command : Command β} {next : Except Error β → Work α} {world : World}
      {rest : Work γ} {there : World} :
      Reaches session (next ((command.run session).runOn world).1)
          ((command.run session).runOn world).2 rest there →
        Reaches session (.issue command next) world rest there
  | install {α γ : Type} {slot : String} {adapter : Adapter}
      {next : Except Error Unit → Work α} {world : World} {rest : Work γ} {there : World} :
      Reaches session (next ((Engine.install slot adapter).runOn world).1)
          ((Engine.install slot adapter).runOn world).2 rest there →
        Reaches session (.install slot adapter next) world rest there
  | swap {α γ : Type} {slot : String} {next : Except Error String → Work α} {world : World}
      {rest : Work γ} {there : World} :
      Reaches session (next ((Engine.swap slot).runOn world).1)
          ((Engine.swap slot).runOn world).2 rest there →
        Reaches session (.swap slot next) world rest there
  | inside {α β γ : Type} {inner : Work β} {next : Except Error β → Work α}
      {world entered : World} {rest : Work γ} {there : World} :
      (world.hooks world.active).start? world = some entered →
        Reaches session inner entered rest there →
          Reaches session (.transaction inner next) world rest there
  | past {α β γ : Type} {inner : Work β} {next : Except Error β → Work α} {world : World}
      {rest : Work γ} {there : World} :
      Reaches session (next ((Engine.transaction (inner.run session)).runOn world).1)
          ((Engine.transaction (inner.run session)).runOn world).2 rest there →
        Reaches session (.transaction inner next) world rest there

end Work

/-! ## What commands are made of -/

/-- An engine made of data calls on the active adapter, texts drawn from the supply,
and answers that change nothing. -/
inductive Engine.Built : {α : Type} → Engine α → Prop where
  | ofExcept {α : Type} (answer : Except Error α) : Built (Engine.ofExcept answer)
  | draw {α : Type} (drawing : Supply → α × Supply) :
      Built (ofFunction fun world =>
        (.ok (drawing world.supply).1, { world with supply := (drawing world.supply).2 }))
  | call {α : Type} (call : DataCall α) : Built (Engine.call call.perform)
  | bind {α β : Type} {engine : Engine α} {next : α → Engine β} :
      Built engine → (∀ value, Built (next value)) → Built (engine >>= next)

namespace Engine.Built

variable {α β : Type}

theorem pure (value : α) : Built (Pure.pure value) := ofExcept (.ok value)

theorem throw (error : Error) : Built (MonadExcept.throw error : Engine α) :=
  ofExcept (.error error)

theorem map {engine : Engine α} (change : α → β) (built : Built engine) :
    Built (change <$> engine) := by
  rw [map_eq_pure_bind]
  exact built.bind fun value => pure (change value)

theorem mapM {step : α → Engine β} (each : ∀ value, Built (step value)) :
    ∀ values : List α, Built (values.mapM step)
  | [] => pure []
  | value :: rest => by
      rw [List.mapM_cons]
      refine (each value).bind ?_
      intro first
      exact (mapM each rest).bind fun others => pure (first :: others)

theorem create (spec : CreateSpec) : Built (Engine.call (Adapter.create spec)) :=
  call (.create spec)

theorem update (spec : UpdateSpec) : Built (Engine.call (Adapter.update spec)) :=
  call (.update spec)

theorem drawTime : Built Engine.drawTime := draw fun supply => (supply.time, supply.afterTime)

theorem completeChildren (settings : Settings) (record : Record) :
    Built (Engine.completeChildren settings record) :=
  draw fun supply => assignChildIds settings supply record

theorem completeId (settings : Settings) (entity : String) (record : Record) :
    Built (Engine.completeId settings entity record) := by
  rw [Engine.completeId]
  split
  · exact ofExcept (.ok record)
  · exact draw fun supply => (Record.ensureId settings entity supply.id record, supply.afterId)

/-- Drawing texts and calling the active adapter is all that is done to a world. -/
theorem keeps {invariant : World → Prop} (stable : World.Stable invariant) {engine : Engine α}
    (built : Built engine) : Keeps invariant engine := by
  induction built with
  | ofExcept answer => exact keeps_ofExcept answer
  | draw drawing => exact fun world holds => stable.supply world _ holds
  | call call => exact keeps_call stable call
  | bind _ _ first second => exact keeps_bind first second

end Engine.Built

namespace Session

open Engine

variable {α : Type} (session : Session) (entity : Entity α)

theorem built_records (builder : QueryBuilder) : Built (session.records entity builder) := by
  refine (Built.ofExcept _).bind ?_
  intro spec
  exact .call (.query spec)

theorem built_first (builder : QueryBuilder) : Built (session.first entity builder) := by
  refine (Built.ofExcept _).bind ?_
  intro spec
  refine (Built.call (.queryFirst spec)).bind ?_
  intro found
  cases found with
  | none => exact .pure none
  | some record => exact (Built.ofExcept (entity.fromRecord record)).map some

theorem built_count (builder : QueryBuilder) : Built (session.count entity builder) := by
  refine (Built.ofExcept _).bind ?_
  intro spec
  exact .call (.count spec)

theorem built_saveStored (selection : Selection) (record : Record) :
    Built (session.saveStored entity selection record) := by
  refine Built.drawTime.bind ?_
  intro now
  refine (Built.update _).bind ?_
  intro matched
  dsimp only
  split
  · exact (Built.throw _).bind fun _ => .ofExcept _
  · exact .ofExcept _

theorem built_saveFresh (record : Record) : Built (session.saveFresh entity record) := by
  refine (Built.completeId _ _ record).bind ?_
  intro identified
  refine Built.drawTime.bind ?_
  intro now
  refine (Built.create _).bind ?_
  intro stored
  exact .ofExcept _

theorem built_saveRecord (selection : Selection) (record : Record) :
    Built (session.saveRecord entity selection record) := by
  refine (Built.completeChildren _ record).bind ?_
  intro completed
  split
  · exact session.built_saveStored entity selection completed
  · exact session.built_saveFresh entity completed

theorem built_save (value : α) (selection : Selection) :
    Built (session.save entity value selection) := by
  refine (Built.ofExcept _).bind ?_
  intro _
  exact (Built.ofExcept _).bind fun record => session.built_saveRecord entity selection record

theorem saveAll_eq (values : List α) :
    session.saveAll entity values = values.mapM fun value => session.save entity value .whole := by
  simp only [saveAll, saveEach, List.mapM_map, Function.comp_def, pure_bind]

end Session

namespace Command

open Engine

variable {α : Type}

theorem built_run (session : Session) (command : Command α) : Built (command.run session) := by
  cases command with
  | create entity payload =>
      refine (Built.ofExcept _).bind ?_
      intro data
      refine (Built.create _).bind ?_
      intro stored
      exact .ofExcept _
  | save entity value selection => exact session.built_save entity value selection
  | saveAll entity values =>
      rw [run, session.saveAll_eq]
      exact Built.mapM (fun value => session.built_save entity value .whole) values
  | update entity builder =>
      refine Built.drawTime.bind ?_
      intro now
      refine (Built.ofExcept _).bind ?_
      intro spec
      exact .call (.update spec)
  | remove entity set =>
      refine (Built.ofExcept _).bind ?_
      intro spec
      exact .call (.delete spec)
  | records entity builder => exact session.built_records entity builder
  | execute entity builder =>
      refine (session.built_records entity builder).bind ?_
      intro result
      exact (Built.ofExcept _).bind fun data => .pure _
  | first entity builder => exact session.built_first entity builder
  | count entity builder => exact session.built_count entity builder
  | anyMatch entity builder =>
      exact (session.built_count entity builder).bind fun found => .pure _
  | findById entity id => exact session.built_first entity (session.byId id)
  | findByIdOrThrow entity id =>
      refine (session.built_first entity (session.byId id)).bind ?_
      intro found
      cases found with
      | none => exact .throw _
      | some value => exact .pure value

theorem keeps_run {invariant : World → Prop} (stable : World.Stable invariant)
    (session : Session) (command : Command α) : Keeps invariant (command.run session) :=
  (command.built_run session).keeps stable

end Command

end RecordQuery
