import RecordQuery.Transaction

/-!
# What a transaction answers

A transaction makes calls on an adapter and runs its work. Running it on calls and
work that keep a history beside the state writes down all that happens, in order,
and changes nothing else. Only few courses are possible, and what happened in them
determines the answer, however the adapter behaves.
-/

namespace RecordQuery

/-- Something that happens in a transaction: the adapter answers a call, or the
work ends with an outcome. -/
inductive TransactionEvent (α : Type) where
  | answered (call : TransactionCall) (answer : Except Error Unit)
  | worked (outcome : Except Error α)

/-- Whether an event is a run of the work. -/
def TransactionEvent.isWork {α : Type} : TransactionEvent α → Bool
  | answered _ _ => false
  | worked _ => true

namespace TransactionHooks

variable {σ α : Type}

/-- A call that writes down its answer. -/
def noting (call : TransactionCall) (perform : σ → Except Error Unit × σ)
    (noted : σ × List (TransactionEvent α)) : Except Error Unit × σ × List (TransactionEvent α) :=
  let (answer, after) := perform noted.1
  (answer, after, noted.2 ++ [.answered call answer])

/-- Work that writes down its outcome. -/
def notingWork (work : σ → Except Error α × σ) (noted : σ × List (TransactionEvent α)) :
    Except Error α × σ × List (TransactionEvent α) :=
  let (outcome, after) := work noted.1
  (outcome, after, noted.2 ++ [.worked outcome])

/-- An adapter whose calls write down their answers. The native call is answered
after the work, or at once if the work is not run. -/
def noted (hooks : TransactionHooks σ) : TransactionHooks (σ × List (TransactionEvent α)) where
  name := hooks.name
  capabilities := hooks.capabilities
  begin := noting .begin hooks.begin
  commit := noting .commit hooks.commit
  rollback := noting .rollback hooks.rollback
  enter := fun (state, past) =>
    match hooks.enter state with
    | (some answer, after) => (some answer, after, past ++ [.answered .transactional answer])
    | (none, after) => (none, after, past)
  leave := fun outcome => noting .transactional (hooks.leave outcome)

/-- All that happens in a transaction, in order. -/
def history (hooks : TransactionHooks σ) (work : σ → Except Error α × σ) (state : σ) :
    List (TransactionEvent α) :=
  (hooks.noted.run (notingWork work) (state, [])).2.2

/-! ## Courses -/

section

variable (hooks : TransactionHooks σ) (work : σ → Except Error α × σ) (state : σ)

/-- The courses that a transaction can take: what happens, and answer and state at
the end. -/
inductive Course : List (TransactionEvent α) → Except Error α × σ → Prop where
  | unprotected {outcome : Except Error α} {after : σ} :
      hooks.capabilities.native = false → hooks.capabilities.manual = false →
      work state = (outcome, after) →
        Course [.worked outcome] (outcome, after)
  | notBegun {error : Error} {after : σ} :
      hooks.capabilities.native = false → hooks.capabilities.manual = true →
      hooks.begin state = (.error error, after) →
        Course [.answered .begin (.error error)] (.error error, after)
  | undone {error : Error} {answer : Except Error Unit} {begun worked after : σ} :
      hooks.capabilities.native = false → hooks.capabilities.manual = true →
      hooks.begin state = (.ok (), begun) → work begun = (.error error, worked) →
      hooks.rollback worked = (answer, after) →
        Course [.answered .begin (.ok ()), .worked (.error error), .answered .rollback answer]
          (.error error, after)
  | committed {value : α} {answer : Except Error Unit} {begun worked after : σ} :
      hooks.capabilities.native = false → hooks.capabilities.manual = true →
      hooks.begin state = (.ok (), begun) → work begun = (.ok value, worked) →
      hooks.commit worked = (answer, after) →
        Course [.answered .begin (.ok ()), .worked (.ok value), .answered .commit answer]
          (answer.map fun _ => value, after)
  | skipped {answer : Except Error Unit} {after : σ} :
      hooks.capabilities.native = true → hooks.enter state = (some answer, after) →
        Course [.answered .transactional answer]
          (answer.bind fun _ => .error (.transaction (.workNotRun hooks.name)), after)
  | native {outcome : Except Error α} {answer : Except Error Unit} {entered worked after : σ} :
      hooks.capabilities.native = true → hooks.enter state = (none, entered) →
      work entered = (outcome, worked) →
      hooks.leave (withoutValue outcome) worked = (answer, after) →
        Course [.worked outcome, .answered .transactional answer]
          (answer.bind fun _ => outcome.mapError fun _ => .transaction (.workNotRun hooks.name),
            after)

theorem run_of_native (native : hooks.capabilities.native = true) :
    hooks.run work state = hooks.runNative work state := if_pos native

theorem run_of_manual (notNative : hooks.capabilities.native = false)
    (manual : hooks.capabilities.manual = true) :
    hooks.run work state = hooks.runManual work state := by
  simp [run, notNative, manual]

theorem run_of_neither (notNative : hooks.capabilities.native = false)
    (notManual : hooks.capabilities.manual = false) : hooks.run work state = work state := by
  simp [run, notNative, notManual]

theorem exists_course_runNative (native : hooks.capabilities.native = true) :
    ∃ events, hooks.noted.runNative (notingWork work) (state, []) =
        ((hooks.runNative work state).1, (hooks.runNative work state).2, events) ∧
      Course hooks work state events (hooks.runNative work state) := by
  simp only [runNative, transactional, noted]
  rcases came : hooks.enter state with ⟨_ | answer, entered⟩
  · rcases ran : work entered with ⟨outcome, worked⟩
    rcases left : hooks.leave (withoutValue outcome) worked with ⟨answer, after⟩
    have course := Course.native native came ran left
    simp only [notingWork, noting, ran, left]
    cases answer <;> cases outcome <;> exact ⟨_, rfl, course⟩
  · have course : Course hooks work state _ _ := .skipped native came
    cases answer <;> exact ⟨_, rfl, course⟩

theorem exists_course_runManual (notNative : hooks.capabilities.native = false)
    (manual : hooks.capabilities.manual = true) :
    ∃ events, hooks.noted.runManual (notingWork work) (state, []) =
        ((hooks.runManual work state).1, (hooks.runManual work state).2, events) ∧
      Course hooks work state events (hooks.runManual work state) := by
  rcases began : hooks.begin state with ⟨error | _, begun⟩
  · simp only [runManual, noted, noting, began]
    exact ⟨_, rfl, .notBegun notNative manual began⟩
  · rcases ran : work begun with ⟨error | value, worked⟩
    · simp only [runManual, noted, noting, notingWork, began, ran]
      exact ⟨_, rfl, .undone notNative manual began ran rfl⟩
    · simp only [runManual, noted, noting, notingWork, began, ran]
      exact ⟨_, rfl, .committed notNative manual began ran rfl⟩

/-- Writing a transaction down changes neither answer nor state, and what is
written is one of the courses. -/
theorem exists_course :
    ∃ events, hooks.noted.run (notingWork work) (state, []) =
        ((hooks.run work state).1, (hooks.run work state).2, events) ∧
      Course hooks work state events (hooks.run work state) := by
  cases native : hooks.capabilities.native with
  | true =>
      rw [run_of_native hooks.noted _ _ native, run_of_native hooks _ _ native]
      exact hooks.exists_course_runNative work state native
  | false =>
      cases manual : hooks.capabilities.manual with
      | true =>
          rw [run_of_manual hooks.noted _ _ native manual, run_of_manual hooks _ _ native manual]
          exact hooks.exists_course_runManual work state native manual
      | false =>
          rw [run_of_neither hooks.noted _ _ native manual, run_of_neither hooks _ _ native manual]
          exact ⟨_, rfl, .unprotected native manual rfl⟩

theorem run_noted :
    hooks.noted.run (notingWork work) (state, []) =
      ((hooks.run work state).1, (hooks.run work state).2, hooks.history work state) := by
  obtain ⟨events, ran, -⟩ := hooks.exists_course work state
  rw [history, ran]

theorem course_run : Course hooks work state (hooks.history work state) (hooks.run work state) := by
  obtain ⟨events, ran, course⟩ := hooks.exists_course work state
  rw [history, ran]
  exact course

end

/-! ## Answers -/

/-- The calls that an adapter has to enclose work that succeeds. -/
def enclosing (hooks : TransactionHooks σ) : List TransactionCall :=
  if hooks.capabilities.native then [.transactional]
  else if hooks.capabilities.manual then [.begin, .commit]
  else []

namespace Course

variable {hooks : TransactionHooks σ} {work : σ → Except Error α × σ} {state : σ}
  {events : List (TransactionEvent α)} {ended : Except Error α × σ}

/-- Success is reported exactly for work that succeeded between calls that did. -/
theorem eq_ok_iff (course : Course hooks work state events ended) (value : α) :
    ended.1 = .ok value ↔
      .worked (.ok value) ∈ events ∧ ∀ call error, .answered call (.error error) ∉ events := by
  cases course with
  | unprotected | notBegun | undone => simp [eq_comm]
  | @committed _ answer => cases answer <;> simp [Except.map, eq_comm]
  | @skipped answer => cases answer <;> simp [Except.bind]
  | @native outcome answer =>
      cases answer with
      | error => simp [Except.bind]
      | ok =>
          cases outcome with
          | error reason =>
              show Except.error _ = Except.ok value ↔ _
              simp
          | ok result =>
              show Except.ok result = Except.ok value ↔ _
              simp [eq_comm]

/-- Work that succeeded has been enclosed in all calls that the adapter has for it. -/
theorem exists_answered (course : Course hooks work state events ended) {value : α}
    (succeeded : .worked (.ok value) ∈ events) {call : TransactionCall}
    (encloses : call ∈ hooks.enclosing) : ∃ answer, .answered call answer ∈ events := by
  rw [enclosing] at encloses
  cases course with
  | unprotected notNative notManual => simp [notNative, notManual] at encloses
  | notBegun | undone | skipped => simp at succeeded
  | @committed _ answer _ _ _ notNative manual =>
      obtain rfl | rfl : call = .begin ∨ call = .commit := by
        simpa [notNative, manual] using encloses
      · exact ⟨.ok (), by simp⟩
      · exact ⟨answer, by simp⟩
  | @native _ answer _ _ _ native =>
      obtain rfl : call = .transactional := by simpa [native] using encloses
      exact ⟨answer, by simp⟩

theorem countP_isWork_le (course : Course hooks work state events ended) :
    events.countP TransactionEvent.isWork ≤ 1 := by
  cases course <;> simp [List.countP_cons, TransactionEvent.isWork]

theorem worked_notMem_of_notBegun (course : Course hooks work state events ended) {error : Error}
    (notBegun : .answered .begin (.error error) ∈ events) (outcome : Except Error α) :
    .worked outcome ∉ events := by
  cases course with
  | notBegun => simp
  | _ => simp at notBegun

/-- Without native transactions, the error of the work is the answer. -/
theorem eq_error_of_worked (course : Course hooks work state events ended)
    (notNative : hooks.capabilities.native = false) {error : Error}
    (failed : .worked (.error error) ∈ events) : ended.1 = .error error := by
  cases course with
  | unprotected | undone => simpa [eq_comm] using failed
  | notBegun | committed => simp at failed
  | skipped native | native native => simp [notNative] at native

/-- The error of a native transaction is the answer. -/
theorem eq_error_of_transactional (course : Course hooks work state events ended) {error : Error}
    (failed : .answered .transactional (.error error) ∈ events) : ended.1 = .error error := by
  cases course with
  | @skipped answer | @native _ answer =>
      obtain rfl : .error error = answer := by simpa using failed
      rfl
  | _ => simp at failed

/-- A native transaction that succeeds without work that succeeded is not believed. -/
theorem eq_workNotRun (course : Course hooks work state events ended)
    (succeeded : .answered .transactional (.ok ()) ∈ events)
    (noValue : ∀ value, .worked (.ok value) ∉ events) :
    ended.1 = .error (.transaction (.workNotRun hooks.name)) := by
  cases course with
  | @skipped answer =>
      obtain rfl : .ok () = answer := by simpa using succeeded
      rfl
  | @native outcome answer =>
      obtain rfl : .ok () = answer := by simpa using succeeded
      cases outcome with
      | ok value => exact absurd List.mem_cons_self (noValue value)
      | error _ => rfl
  | _ => simp at succeeded

end Course

/-- What a transaction answers is earned, whatever the adapter does. Success is
reported exactly when the work succeeded and no call failed, and work that succeeds is
enclosed in all calls that the adapter has for it: the native one, or begin and
commit. The work runs at most once, and not after a failure to begin. Without native
transactions a failure of the work is the answer, even if the rollback fails too. A
failure of the native call is the answer as it is, and its success is not believed
when the work did not succeed. -/
theorem transaction_answer_earned (hooks : TransactionHooks σ)
    (work : σ → Except Error α × σ) (state : σ) :
    let answer := (hooks.run work state).1
    let events := hooks.history work state
    hooks.noted.run (notingWork work) (state, []) =
        (answer, (hooks.run work state).2, events) ∧
      (∀ value, answer = .ok value ↔
        .worked (.ok value) ∈ events ∧ ∀ call error, .answered call (.error error) ∉ events) ∧
      (∀ value, .worked (.ok value) ∈ events → ∀ call ∈ hooks.enclosing,
        ∃ answer, .answered call answer ∈ events) ∧
      events.countP TransactionEvent.isWork ≤ 1 ∧
      (∀ error, .answered .begin (.error error) ∈ events →
        ∀ outcome, .worked outcome ∉ events) ∧
      (hooks.capabilities.native = false → ∀ error, .worked (.error error) ∈ events →
        answer = .error error) ∧
      (∀ error, .answered .transactional (.error error) ∈ events → answer = .error error) ∧
      (.answered .transactional (.ok ()) ∈ events → (∀ value, .worked (.ok value) ∉ events) →
        answer = .error (.transaction (.workNotRun hooks.name))) := by
  intro answer events
  have course := hooks.course_run work state
  refine ⟨hooks.run_noted work state, course.eq_ok_iff, ?_, course.countP_isWork_le, ?_, ?_, ?_,
    course.eq_workNotRun⟩
  · intro value succeeded call encloses
    exact course.exists_answered succeeded encloses
  · intro error notBegun
    exact course.worked_notMem_of_notBegun notBegun
  · intro notNative error failed
    exact course.eq_error_of_worked notNative failed
  · intro error failed
    exact course.eq_error_of_transactional failed

/-- An adapter that swallows the error of the work is found out, and one that fails
to roll back does not hide it. -/
theorem transaction_answer_of_failedWork :
    let swallowing : TransactionHooks Nat :=
      { name := "swallowing"
        capabilities := { native := true }
        begin := fun state => (.ok (), state)
        commit := fun state => (.ok (), state)
        rollback := fun state => (.ok (), state)
        enter := fun state => (none, state)
        leave := fun _ state => (.ok (), state) }
    let stuck : TransactionHooks Nat :=
      { swallowing with
        capabilities := { manual := true }
        rollback := fun state => (.error (.backend "stuck"), state) }
    let work : Nat → Except Error String × Nat := fun state => (.error .serialization, state + 1)
    (swallowing.run work 0).1 = .error (.transaction (.workNotRun "swallowing")) ∧
      (stuck.run work 0).1 = .error .serialization := by
  intro swallowing stuck work
  obtain ⟨-, -, -, -, -, -, -, notBelieved⟩ := transaction_answer_earned swallowing work 0
  obtain ⟨-, -, -, -, -, workFailed, -, -⟩ := transaction_answer_earned stuck work 0
  have swallowed : swallowing.history work 0 =
      [.worked (.error .serialization), .answered .transactional (.ok ())] := rfl
  have undone : stuck.history work 0 =
      [.answered .begin (.ok ()), .worked (.error .serialization),
        .answered .rollback (.error (.backend "stuck"))] := rfl
  rw [swallowed] at notBelieved
  rw [undone] at workFailed
  exact ⟨notBelieved (by simp) (by simp), workFailed rfl .serialization (by simp)⟩

end TransactionHooks

end RecordQuery
