import RecordQuery.Proofs.FilterCalls

/-!
# The first problem of a command

A query, an update or a removal is put together by calls that never fail. Compiling it
passes a list of checkpoints, which can be read off the calls: the payloads of field
values, then the conditions in the order in which they were given, then for a query
its page, its order clauses and its selected names. Compiling fails exactly if some
checkpoint is rejected, and reports what the first of those says. How the calls nest
the filters into groups has no influence.
-/

namespace RecordQuery

/-! ## Checkpoints -/

/-- The shape of a comparison value is not the one that its operator takes. -/
inductive Operator.Misfit : Operator → Value → ConditionFault → Prop where
  | isIn {value : Value} : (∀ items, value ≠ .list items) → Misfit .isIn value .notAList
  | notIn {value : Value} : (∀ items, value ≠ .list items) → Misfit .notIn value .notAList
  | bounds {value : Value} : (∀ items, value ≠ .list items) → Misfit .between value .notBounds
  | boundCount {items : List Value} : items.length ≠ 2 →
      Misfit .between (.list items) (.boundCount items.length)
  | like {value : Value} : (∀ text, value ≠ .text text) → Misfit .like value .notAPattern
  | ilike {value : Value} : (∀ text, value ≠ .text text) → Misfit .ilike value .notAPattern

/-- The entity declares fields, and the first segment of the path is neither one of
them nor managed. -/
def FieldRules.Undeclared (rules : FieldRules) (path : Path) : Prop :=
  rules.declared ≠ [] ∧ ∃ first, path.segments.head? = some first ∧ first ∉ rules.declared ∧
    first ≠ rules.settings.idField ∧ first ≠ rules.settings.createdAtField ∧
    first ≠ rules.settings.updatedAtField

/-- What is looked at when a command is compiled. -/
inductive Checkpoint where
  | patch (payload : Payload)
  | patchField (payload : Payload)
  | fields (payload : Payload)
  | condition (asked : Condition)
  | pageSize (size : Nat)
  | ordering (field : Path)
  | selection (name : String)

namespace Checkpoint

/-- A checkpoint is rejected with an error. -/
inductive Rejects (rules : FieldRules) : Checkpoint → Error → Prop where
  | unencodablePatch {text : String} : Rejects rules (.patch (.error text)) .serialization
  | notAnObject {value : Value} : (∀ fields, value ≠ .object fields) →
      Rejects rules (.patch (.ok value)) (.notAnObject rules.entity)
  | unencodableField {text : String} : Rejects rules (.patchField (.error text)) .serialization
  | unencodable {text : String} :
      Rejects rules (.fields (.error text)) (.invalidCondition "*" .eq (.unencodable text))
  | notFields {value : Value} : (∀ fields, value ≠ .object fields) →
      Rejects rules (.fields (.ok value)) (.invalidCondition "*" .eq (.notFields value))
  | emptyPath {asked : Condition} : asked.field.segments = [] →
      Rejects rules (.condition asked) (.invalidCondition "" asked.operator .emptyPath)
  | misfit {asked : Condition} {fault : ConditionFault} : asked.field.segments ≠ [] →
      asked.operator.Misfit asked.value fault →
      Rejects rules (.condition asked)
        (.invalidCondition asked.field.display asked.operator fault)
  | undeclared {asked : Condition} : (∀ fault, ¬asked.operator.Misfit asked.value fault) →
      rules.Undeclared asked.field →
      Rejects rules (.condition asked) (.unknownField rules.entity asked.field.display)
  | emptyPages : Rejects rules (.pageSize 0) .emptyPages
  | undeclaredOrdering {field : Path} : rules.Undeclared field →
      Rejects rules (.ordering field) (.unknownField rules.entity field.display)
  | undeclaredSelection {name : String} : rules.Undeclared (.parse name) →
      Rejects rules (.selection name) (.unknownField rules.entity (Path.parse name).display)

/-- The error with which a checkpoint is rejected, if it is. -/
def error? (rules : FieldRules) : Checkpoint → Option Error
  | patch (.error _) | patchField (.error _) => some .serialization
  | patch (.ok value) => if value.asRecord?.isNone then some (.notAnObject rules.entity) else none
  | patchField (.ok _) => none
  | fields (.error text) => some (.invalidCondition "*" .eq (.unencodable text))
  | fields (.ok value) =>
      if value.asRecord?.isNone then some (.invalidCondition "*" .eq (.notFields value)) else none
  | condition asked => rules.conditionProblem? asked
  | pageSize size => if size = 0 then some .emptyPages else none
  | ordering field => rules.pathProblem? field
  | selection name => rules.pathProblem? (.parse name)

end Checkpoint

/-- Of a condition that names a field, the fault is that of its comparison value. -/
theorem Condition.fault?_eq_some_iff {condition : Condition} {fault : ConditionFault}
    (named : condition.field.segments ≠ []) :
    condition.fault? = some fault ↔ condition.operator.Misfit condition.value fault := by
  have filled : ¬condition.field.isEmpty := by simpa [Path.isEmpty] using named
  rw [fault?, if_neg filled]
  obtain ⟨field, operator, value, quantifier⟩ := condition
  constructor
  · intro found
    cases operator with
    | isIn =>
        cases value with
        | list => cases found
        | _ => cases found; exact .isIn nofun
    | notIn =>
        cases value with
        | list => cases found
        | _ => cases found; exact .notIn nofun
    | between =>
        cases value with
        | list items =>
            rcases items with _ | ⟨_, _ | ⟨_, _ | ⟨_, rest⟩⟩⟩ <;> cases found <;>
              exact .boundCount (by simp)
        | _ => cases found; exact .bounds nofun
    | like =>
        cases value with
        | text => cases found
        | _ => cases found; exact .like nofun
    | ilike =>
        cases value with
        | text => cases found
        | _ => cases found; exact .ilike nofun
    | _ => cases found
  · intro misfit
    cases misfit with
    | isIn unlike | notIn unlike | bounds unlike =>
        cases value with
        | list items => exact absurd rfl (unlike items)
        | _ => rfl
    | @boundCount items count =>
        rcases items with _ | ⟨_, _ | ⟨_, _ | ⟨_, rest⟩⟩⟩
        · rfl
        · rfl
        · exact absurd rfl count
        · rfl
    | like unlike | ilike unlike =>
        cases value with
        | text text => exact absurd rfl (unlike text)
        | _ => rfl

/-- A path is a problem when its first segment is undeclared. -/
theorem FieldRules.pathProblem?_eq_some_iff {rules : FieldRules} {path : Path} {error : Error} :
    rules.pathProblem? path = some error ↔
      rules.Undeclared path ∧ .unknownField rules.entity path.display = error := by
  obtain ⟨_ | ⟨first, rest⟩⟩ := path
  · simp [pathProblem?, Path.root?, Undeclared]
  · have unknown : ¬rules.knows first ↔ rules.Undeclared ⟨first :: rest⟩ := by
      simp [knows, Undeclared, Settings.managed, and_assoc]
    rw [← unknown]
    simp [pathProblem?, Path.root?]

namespace Checkpoint

variable {rules : FieldRules} {checkpoint : Checkpoint} {error : Error}

theorem conditionProblem?_eq_some_iff {asked : Condition} :
    rules.conditionProblem? asked = some error ↔ (condition asked).Rejects rules error := by
  rw [FieldRules.conditionProblem?, Condition.problem?]
  by_cases named : asked.field.segments = []
  case pos =>
    have fault : asked.fault? = some .emptyPath := by
      rw [Condition.fault?, if_pos (by simp [Path.isEmpty, named])]
    have display : asked.field.display = "" := by rw [Path.display, named]; rfl
    rw [fault, display, Option.map_some, Option.some_or]
    constructor
    · rintro ⟨⟩
      exact .emptyPath named
    · intro rejects
      cases rejects with
      | emptyPath => rfl
      | misfit filled => exact absurd named filled
      | undeclared _ unknown =>
          obtain ⟨_, first, found, _⟩ := unknown
          rw [named] at found
          cases found
  case neg =>
    cases fault : asked.fault? with
    | some fault =>
        have misfit := (Condition.fault?_eq_some_iff named).1 fault
        rw [Option.map_some, Option.some_or]
        constructor
        · rintro ⟨⟩
          exact .misfit named misfit
        · intro rejects
          cases rejects with
          | emptyPath empty => exact absurd empty named
          | misfit _ other =>
              cases fault.symm.trans ((Condition.fault?_eq_some_iff named).2 other)
              rfl
          | undeclared fits => exact absurd misfit (fits _)
    | none =>
        have fits : ∀ other, ¬asked.operator.Misfit asked.value other := by
          intro other misfit
          cases fault.symm.trans ((Condition.fault?_eq_some_iff named).2 misfit)
        rw [Option.map_none, Option.none_or, FieldRules.pathProblem?_eq_some_iff]
        constructor
        · rintro ⟨unknown, rfl⟩
          exact .undeclared fits unknown
        · intro rejects
          cases rejects with
          | emptyPath empty => exact absurd empty named
          | misfit _ misfit => exact absurd misfit (fits _)
          | undeclared _ unknown => exact ⟨unknown, rfl⟩

/-- The computed error is the one with which a checkpoint is rejected. -/
theorem error?_eq_some_iff :
    checkpoint.error? rules = some error ↔ checkpoint.Rejects rules error := by
  cases checkpoint with
  | patch payload =>
      cases payload with
      | error text => exact ⟨fun | rfl => .unencodablePatch, fun | .unencodablePatch => rfl⟩
      | ok value =>
          cases value with
          | object fields => exact iff_of_false nofun fun | .notAnObject apart => apart fields rfl
          | _ => exact ⟨fun | rfl => .notAnObject nofun, fun | .notAnObject _ => rfl⟩
  | patchField payload =>
      cases payload with
      | error text => exact ⟨fun | rfl => .unencodableField, fun | .unencodableField => rfl⟩
      | ok value => exact iff_of_false nofun nofun
  | fields payload =>
      cases payload with
      | error text => exact ⟨fun | rfl => .unencodable, fun | .unencodable => rfl⟩
      | ok value =>
          cases value with
          | object fields => exact iff_of_false nofun fun | .notFields apart => apart fields rfl
          | _ => exact ⟨fun | rfl => .notFields nofun, fun | .notFields _ => rfl⟩
  | condition asked => exact conditionProblem?_eq_some_iff
  | pageSize size =>
      cases size with
      | zero => exact ⟨fun | rfl => .emptyPages, fun | .emptyPages => rfl⟩
      | succ size => exact iff_of_false nofun nofun
  | ordering field =>
      rw [error?, FieldRules.pathProblem?_eq_some_iff]
      constructor
      · rintro ⟨undeclared, rfl⟩
        exact .undeclaredOrdering undeclared
      · rintro ⟨⟩
        exact ⟨‹_›, rfl⟩
  | selection name =>
      rw [error?, FieldRules.pathProblem?_eq_some_iff]
      constructor
      · rintro ⟨undeclared, rfl⟩
        exact .undeclaredSelection undeclared
      · rintro ⟨⟩
        exact ⟨‹_›, rfl⟩

end Checkpoint

/-! ## Reports -/

/-- The error of a failed answer. -/
def failure? {α : Type} : Except Error α → Option Error
  | .error error => some error
  | .ok _ => none

section Reports

variable {α : Type} {rules : FieldRules} {checkpoints : List Checkpoint} {answer : Except Error α}

/-- An answer fails exactly if a checkpoint is rejected, with what the first rejected
one says. -/
structure ReportsFirst (rules : FieldRules) (checkpoints : List Checkpoint)
    (answer : Except Error α) : Prop where
  fails_iff : (∃ error, answer = .error error) ↔
    ∃ checkpoint ∈ checkpoints, ∃ error, checkpoint.Rejects rules error
  error_iff : ∀ error, answer = .error error ↔
    ∃ passed checkpoint rest, checkpoints = passed ++ checkpoint :: rest ∧
      checkpoint.Rejects rules error ∧
      ∀ earlier ∈ passed, ∀ other, ¬earlier.Rejects rules other

theorem eq_error_iff {error : Error} : answer = .error error ↔ failure? answer = some error := by
  cases answer <;> simp [failure?]

theorem failure?_rejectIf_bind (problem : Option Error) (next : Unit → Except Error α) :
    failure? (rejectIf problem >>= next) = problem.or (failure? (next ())) := by
  cases problem <;> rfl

theorem ReportsFirst.of_failure?
    (found : failure? answer = checkpoints.findSome? (Checkpoint.error? rules)) :
    ReportsFirst rules checkpoints answer where
  fails_iff := by
    simp only [eq_error_iff, found, ← Option.isSome_iff_exists, List.findSome?_isSome_iff]
    simp only [Option.isSome_iff_exists, Checkpoint.error?_eq_some_iff]
  error_iff := by
    intro error
    simp only [eq_error_iff, found, List.findSome?_eq_some_iff, Option.eq_none_iff_forall_ne_some,
      ne_eq, Checkpoint.error?_eq_some_iff]

end Reports

/-! ## Runs of calls -/

section Runs

variable {State Call Part Found : Type} {apply : State → Call → State}

/-- A list to which every call appends. -/
theorem foldl_of_appends (view : State → List Found) {parts : Call → List Found}
    (step : ∀ state call, view (apply state call) = view state ++ parts call)
    (calls : List Call) (state : State) :
    view (calls.foldl apply state) = view state ++ calls.flatMap parts := by
  induction calls generalizing state with
  | nil => simp
  | cons call rest ih =>
      rw [List.foldl_cons, ih, step, List.flatMap_cons, List.append_assoc]

/-- A finding that every call keeps, or makes if there is none yet. -/
theorem foldl_of_keeps (view : State → Option Found) {part? : Call → Option Part}
    {find? : Part → Option Found}
    (step : ∀ state call, view (apply state call) = (view state).or ((part? call).bind find?))
    (calls : List Call) (state : State) :
    view (calls.foldl apply state) =
      (view state).or ((calls.filterMap part?).findSome? find?) := by
  induction calls generalizing state with
  | nil => simp
  | cons call rest ih =>
      rw [List.foldl_cons, ih, step, Option.or_assoc, List.filterMap_cons]
      cases part? call with
      | none => rfl
      | some part =>
          rw [Option.bind_some, List.findSome?_cons]
          cases find? part <;> rfl

end Runs

/-! ## Filters -/

/-- The error for a payload that could not be read as field values. -/
def FilterSet.misfitError? (set : FilterSet) : Option Error :=
  set.misfit.map (.invalidCondition "*" .eq)

theorem FilterSet.problem?_eq_or (set : FilterSet) (rules : FieldRules) :
    set.problem? rules = set.misfitError?.or (rules.filtersProblem? set.filters) := by
  rw [problem?, misfitError?]
  cases set.misfit <;> rfl

@[simp] theorem Filter.conditionsOf_append (first second : List Filter) :
    conditionsOf (first ++ second) = conditionsOf first ++ conditionsOf second := by
  simp only [conditionsOf_eq_flatMap, List.flatMap_append]

namespace FilterCall

/-- The payload of field values that a call has. -/
def payload? : FilterCall → Option Payload
  | whereEq payload => some payload
  | _ => none

/-- The conditions that a call gives, those of groups depth first. -/
def conditions : FilterCall → List Condition
  | whereEq (.ok (.object fields)) => fields.map fun (name, value) => .of (.parse name) .eq value
  | whereEq _ => []
  | andWhere field operator value | orWhere field operator value => [.of field operator value]
  | whereNested path operator value => [⟨path, operator, value, some .any⟩]
  | whereAll list element operator value => [⟨list.join element, operator, value, some .all⟩]
  | orGroup members | whereGroup _ members => Filter.conditionsOf members

/-- The checkpoints of filters: all payloads, then all conditions. -/
def checkpoints (calls : List FilterCall) : List Checkpoint :=
  (calls.filterMap payload?).map .fields ++ (calls.flatMap conditions).map .condition

/-- A call adds its conditions at the end, also where it regroups the last filter. -/
theorem conditionsOf_apply (set : FilterSet) (call : FilterCall) :
    Filter.conditionsOf (apply set call).filters =
      Filter.conditionsOf set.filters ++ call.conditions := by
  cases call with
  | whereEq payload =>
      cases payload with
      | error text => exact (List.append_nil _).symm
      | ok value =>
          cases value with
          | object fields =>
              have alone : fields.flatMap (fun field => (FilterSet.equalTo field).conditions) =
                  fields.map fun (name, value) => .of (.parse name) .eq value := by
                induction fields <;> simp_all [FilterSet.equalTo, Filter.conditions]
              rw [apply, FilterSet.whereEq, Filter.conditionsOf_append, conditions,
                Filter.conditionsOf_eq_flatMap (fields.map _), List.flatMap_map, alone]
          | _ => exact (List.append_nil _).symm
  | orWhere field operator value =>
      rw [apply, FilterSet.orWhere]
      split
      case h_1 last found =>
        obtain ⟨before, same⟩ := List.getLast?_eq_some_iff.1 found
        simp [same, Filter.conditionsOf_append, Filter.conditionsOf, Filter.conditions, conditions]
      case h_2 =>
        simp [FilterSet.push, Filter.conditionsOf_append, Filter.conditionsOf, Filter.conditions,
          conditions]
  | _ =>
      simp [apply, FilterSet.andWhere, FilterSet.whereNested, FilterSet.whereAll,
        FilterSet.orGroup, FilterSet.whereGroup, FilterSet.push, Filter.conditionsOf_append,
        Filter.conditionsOf, Filter.conditions, conditions]

theorem misfitError?_apply (rules : FieldRules) (set : FilterSet) (call : FilterCall) :
    (apply set call).misfitError? =
      set.misfitError?.or
        (call.payload?.bind fun payload => (Checkpoint.fields payload).error? rules) := by
  cases call with
  | whereEq payload =>
      cases payload with
      | error text => exact Option.map_or
      | ok value =>
          cases value with
          | object => exact Option.or_none.symm
          | _ => exact Option.map_or
  | orWhere =>
      rw [apply, FilterSet.orWhere]
      split <;> exact Option.or_none.symm
  | _ => exact Option.or_none.symm

/-- Collected filters have the problem of their first rejected checkpoint. -/
theorem problem?_collect (rules : FieldRules) (calls : List FilterCall) :
    (collect calls).problem? rules = (checkpoints calls).findSome? (Checkpoint.error? rules) := by
  have misfit : (collect calls).misfitError? = ((calls.filterMap payload?).findSome? fun payload =>
      (Checkpoint.fields payload).error? rules) :=
    foldl_of_keeps FilterSet.misfitError? (misfitError?_apply rules) calls {}
  have filters : Filter.conditionsOf (collect calls).filters = calls.flatMap conditions :=
    foldl_of_appends (fun set : FilterSet => Filter.conditionsOf set.filters) conditionsOf_apply
      calls {}
  rw [FilterSet.problem?_eq_or, FieldRules.filtersProblem?, misfit, filters, checkpoints,
    List.findSome?_append, List.findSome?_map, List.findSome?_map]
  rfl

end FilterCall

/-! ## Queries -/

/-- A call that adds to a query. -/
inductive QueryCall where
  | filter (call : FilterCall)
  | relate (names : List String)
  | select (names : List String)
  | orderBy (clause : OrderClause)
  | paginate (number size : Nat)
  | limit (count : Nat)
  | skip (count : Nat)

namespace QueryCall

/-- Carry out a call. -/
def apply (builder : QueryBuilder) : QueryCall → QueryBuilder
  | filter call => builder.filter (call.apply ·)
  | relate names => builder.relate names
  | select names => builder.selectFields names
  | orderBy clause => builder.orderBy clause.field clause.direction
  | paginate number size => builder.paginate number size
  | limit count => builder.limitTo count
  | skip count => builder.skipOver count

/-- The query after calls made one after the other. -/
def collect (calls : List QueryCall) : QueryBuilder := calls.foldl apply {}

def filter? : QueryCall → Option FilterCall
  | filter call => some call
  | _ => none

def page? : QueryCall → Option (Nat × Nat)
  | paginate number size => some (number, size)
  | _ => none

def clauses : QueryCall → List OrderClause
  | orderBy clause => [clause]
  | _ => []

def selected : QueryCall → List String
  | select names => names
  | _ => []

/-- The checkpoints of a query: its filters, the page asked for last, the order
clauses, the selected names. -/
def checkpoints (calls : List QueryCall) : List Checkpoint :=
  FilterCall.checkpoints (calls.filterMap filter?) ++
    (calls.filterMap page?).getLast?.toList.map (fun (_, size) => .pageSize size) ++
    (calls.flatMap clauses).map (fun clause => .ordering clause.field) ++
    (calls.flatMap selected).map .selection

theorem filters_collect (calls : List QueryCall) :
    (collect calls).filters = FilterCall.collect (calls.filterMap filter?) := by
  rw [collect, FilterCall.collect, List.foldl_filterMap]
  exact (List.foldl_hom QueryBuilder.filters fun builder call => by cases call <;> rfl).symm

theorem order_collect (calls : List QueryCall) : (collect calls).order = calls.flatMap clauses :=
  foldl_of_appends QueryBuilder.order
    (fun builder call => by
      cases call <;> first | exact (List.append_nil _).symm | rfl) calls {}

theorem select_collect (calls : List QueryCall) :
    (collect calls).select = calls.flatMap selected :=
  foldl_of_appends QueryBuilder.select
    (fun builder call => by
      cases call <;> first | exact (List.append_nil _).symm | rfl) calls {}

/-- A later page replaces an earlier one. -/
theorem page_collect (calls : List QueryCall) :
    (collect calls).page = (calls.filterMap page?).getLast? := by
  have grown : ∀ builder : QueryBuilder,
      (calls.foldl apply builder).page = (calls.filterMap page?).getLast?.or builder.page := by
    induction calls with
    | nil => exact fun _ => rfl
    | cons call rest ih =>
        intro builder
        rw [List.foldl_cons, ih, List.filterMap_cons]
        cases call with
        | paginate number size =>
            rw [page?, List.getLast?_cons, Option.some_or]
            exact Option.or_some
        | _ => rfl
  exact (grown {}).trans Option.or_none

end QueryCall

namespace QueryBuilder

variable (builder : QueryBuilder) (rules : FieldRules)

theorem failure?_window : failure? builder.window =
    builder.page.bind fun (_, size) => (Checkpoint.pageSize size).error? rules := by
  obtain ⟨filters, relations, select, order, _ | ⟨number, size⟩, limit, skip⟩ := builder
  · cases limit <;> cases skip <;> rfl
  · cases size <;> rfl

/-- The filters are looked at twice, and the second time they have no problem. -/
theorem failure?_compile : failure? (builder.compile rules) =
    (builder.filters.problem? rules).or ((failure? builder.window).or
      ((rules.orderProblem? builder.order).or (rules.selectProblem? builder.select))) := by
  rw [compile, failure?_rejectIf_bind]
  cases problem : builder.filters.problem? rules with
  | some error => rfl
  | none =>
      rw [FilterSet.problem?_eq_or, Option.or_eq_none_iff] at problem
      cases window : builder.window with
      | error error => rfl
      | ok window =>
          refine (failure?_rejectIf_bind _ _).trans ?_
          rw [QuerySpec.problem?, problem.2]
          exact Option.or_none

end QueryBuilder

/-- A query fails as its first rejected checkpoint says. -/
theorem QueryCall.failure?_compile_collect (rules : FieldRules) (calls : List QueryCall) :
    failure? ((collect calls).compile rules) =
      (checkpoints calls).findSome? (Checkpoint.error? rules) := by
  rw [QueryBuilder.failure?_compile, filters_collect, FilterCall.problem?_collect,
    QueryBuilder.failure?_window _ rules, page_collect, order_collect, select_collect, checkpoints]
  simp only [List.findSome?_append, List.findSome?_map, Option.or_assoc]
  cases (calls.filterMap page?).getLast? with
  | none => rfl
  | some page =>
      rw [Option.bind_some, Option.toList_some, List.findSome?_singleton]
      rfl

/-! ## Updates and removals -/

/-- A call that adds to an update. -/
inductive UpdateCall where
  | filter (call : FilterCall)
  | set (payload : Payload)
  | setField (key : String) (payload : Payload)

namespace UpdateCall

/-- Carry out a call. -/
def apply (entity : String) (builder : UpdateBuilder) : UpdateCall → UpdateBuilder
  | filter call => builder.filter (call.apply ·)
  | set payload => builder.set entity payload
  | setField key payload => builder.setField key payload

/-- The update after calls made one after the other. -/
def collect (entity : String) (calls : List UpdateCall) : UpdateBuilder :=
  calls.foldl (apply entity) {}

def filter? : UpdateCall → Option FilterCall
  | filter call => some call
  | _ => none

def written? : UpdateCall → Option Checkpoint
  | set payload => some (.patch payload)
  | setField _ payload => some (.patchField payload)
  | filter _ => none

/-- The checkpoints of an update: the payloads to be written, then its filters. -/
def checkpoints (calls : List UpdateCall) : List Checkpoint :=
  calls.filterMap written? ++ FilterCall.checkpoints (calls.filterMap filter?)

theorem filters_collect (entity : String) (calls : List UpdateCall) :
    (collect entity calls).filters = FilterCall.collect (calls.filterMap filter?) := by
  rw [collect, FilterCall.collect, List.foldl_filterMap]
  refine (List.foldl_hom UpdateBuilder.filters fun builder call => ?_).symm
  cases call with
  | filter call => rfl
  | set payload => exact (builder.filters_set entity payload).symm
  | setField key payload => exact (builder.filters_setField key payload).symm

theorem error_apply (rules : FieldRules) (builder : UpdateBuilder) (call : UpdateCall) :
    (apply rules.entity builder call).error =
      builder.error.or (call.written?.bind (Checkpoint.error? rules)) := by
  cases call with
  | filter call => exact Option.or_none.symm
  | set payload =>
      cases payload with
      | error text => rfl
      | ok value =>
          cases value with
          | object => exact Option.or_none.symm
          | _ => rfl
  | setField key payload =>
      cases payload with
      | error text => rfl
      | ok value => exact Option.or_none.symm

/-- An update fails as its first rejected checkpoint says. -/
theorem failure?_compile_collect (rules : FieldRules) (calls : List UpdateCall) (now : String) :
    failure? ((collect rules.entity calls).compile rules now) =
      (checkpoints calls).findSome? (Checkpoint.error? rules) := by
  have compiled : failure? ((collect rules.entity calls).compile rules now) =
      (collect rules.entity calls).error.or
        ((collect rules.entity calls).filters.problem? rules) := by
    refine (failure?_rejectIf_bind _ _).trans (congrArg _ ?_)
    exact (failure?_rejectIf_bind _ _).trans Option.or_none
  have error : (collect rules.entity calls).error =
      (calls.filterMap written?).findSome? (Checkpoint.error? rules) :=
    foldl_of_keeps UpdateBuilder.error (error_apply rules) calls {}
  rw [compiled, filters_collect, FilterCall.problem?_collect, error, checkpoints,
    List.findSome?_append]

end UpdateCall

/-- A removal fails as its first rejected checkpoint says. -/
theorem FilterCall.failure?_compileDelete_collect (rules : FieldRules) (calls : List FilterCall) :
    failure? ((collect calls).compileDelete rules) =
      (checkpoints calls).findSome? (Checkpoint.error? rules) := by
  rw [← problem?_collect]
  exact (failure?_rejectIf_bind _ _).trans Option.or_none

/-! ## Commands -/

/-- Whatever calls put them together, a query, an update and a removal compile exactly
if no checkpoint is rejected, and otherwise report the first one that is. An update
or a removal that does not compile changes nothing. -/
theorem commands_report_first {α : Type} (session : Session) (entity : Entity α)
    (queryCalls : List QueryCall) (updateCalls : List UpdateCall)
    (filterCalls : List FilterCall) :
    let rules := session.rules entity
    let update := UpdateCall.collect entity.name updateCalls
    let removal := FilterCall.collect filterCalls
    ReportsFirst rules (QueryCall.checkpoints queryCalls)
        (session.compile entity (QueryCall.collect queryCalls)) ∧
      (∀ now, ReportsFirst rules (UpdateCall.checkpoints updateCalls) (update.compile rules now)) ∧
      ReportsFirst rules (FilterCall.checkpoints filterCalls) (removal.compileDelete rules) ∧
      ∀ (world : World) (error : Error),
        (update.compile rules world.supply.time = .error error →
          (session.update entity update).Rejects world error) ∧
        (removal.compileDelete rules = .error error →
          (session.remove entity removal).Rejects world error) := by
  intro rules update removal
  refine ⟨?_, ?_, ?_, ?_⟩
  · exact .of_failure? (QueryCall.failure?_compile_collect rules queryCalls)
  · exact fun now => .of_failure? (UpdateCall.failure?_compile_collect rules updateCalls now)
  · exact .of_failure? (FilterCall.failure?_compileDelete_collect rules filterCalls)
  · intro world error
    constructor
    · intro failed
      exact Engine.rejects_drawTime_bind (Engine.rejects_ofExcept_bind failed _ _)
    · intro failed
      exact Engine.rejects_ofExcept_bind failed _ world

end RecordQuery
