import SoapDispatch.Proofs.Notices

/-!
# Courses of deferred invocations

An action on one invocation leaves alone what is known of every other one, so each invocation has a
course of its own however the steps of different ones are mixed.
-/

namespace SoapDispatch

open SoapDispatch.Soap

/-! ## Tasks -/

/-- A task that does not wait cannot be cancelled. -/
theorem TaskStatus.cancel_of_ne_pending {status : TaskStatus} (started : status ≠ .pending) :
    status.cancel = (false, status) := by
  cases status <;> first | rfl | exact absurd rfl started

namespace TaskTable

variable (table : TaskTable) (task other : Nat) (change : TaskStatus → Bool × TaskStatus)

/-- No step on a task makes or removes one. -/
@[simp] theorem length_step : (table.step task change).2.length = table.length := by
  unfold TaskTable.step
  split <;> simp

/-- A step on a task changes the status of that task. -/
theorem status?_step_self : (table.step task change).2.status? task =
    (table.status? task).map fun status => (change status).2 := by
  simp only [TaskTable.step, TaskTable.status?]
  cases known : table[task]? with
  | none => simp [known]
  | some status =>
    obtain ⟨inside, _⟩ := List.getElem?_eq_some_iff.1 known
    simp [inside]

/-- The answer of a step on a task is the one for the status of that task. -/
theorem fst_step : (table.step task change).1 =
    ((table.status? task).map fun status => (change status).1).getD false := by
  simp only [TaskTable.step, TaskTable.status?]
  cases table[task]? <;> rfl

/-- A step on a task whose status is known answers and leaves what it does to that status. -/
theorem step_of_known {table : TaskTable} {task : Nat} {status : TaskStatus}
    (change : TaskStatus → Bool × TaskStatus) (known : table.status? task = some status) :
    (table.step task change).1 = (change status).1 ∧
      (table.step task change).2.status? task = some (change status).2 := by
  simp [fst_step, status?_step_self, known]

/-- A step on a task leaves the others alone. -/
theorem status?_step_of_ne (distinct : task ≠ other) :
    (table.step task change).2.status? other = table.status? other := by
  simp only [TaskTable.step, TaskTable.status?]
  split
  · simp [distinct]
  · rfl

/-- A task that begins or does not makes or removes none. -/
theorem length_of_begin {table : TaskTable} {task : Nat} {answer : Bool} {tasks : TaskTable}
    (begins : table.begin task = (answer, tasks)) : tasks.length = table.length := by
  have stepped : tasks = (table.begin task).2 := by rw [begins]
  rw [stepped]
  exact length_step table task _

/-- A task that waits begins. -/
theorem begin_of_pending {table : TaskTable} {task : Nat}
    (pending : table.status? task = some .pending) :
    (table.begin task).1 = true ∧ (table.begin task).2.status? task = some .running :=
  step_of_known TaskStatus.begin pending

/-- Ending a task makes or removes none. -/
@[simp] theorem length_finish (outcome : WorkOutcome) :
    (table.finish task outcome).length = table.length := by
  simp [TaskTable.finish]

/-- A task that has ended has the status of its outcome. -/
theorem status?_finish_self (outcome : WorkOutcome) :
    (table.finish task outcome).status? task =
      (table.status? task).map fun _ => outcome.status := by
  simp only [TaskTable.finish, TaskTable.status?, List.getElem?_modify_eq]
  cases table[task]? <;> rfl

/-- Ending a task leaves the others alone. -/
theorem status?_finish_of_ne (outcome : WorkOutcome) (distinct : task ≠ other) :
    (table.finish task outcome).status? other = table.status? other := by
  simp [TaskTable.finish, TaskTable.status?, distinct]

/-- A new task has the status it was added with. -/
@[simp] theorem status?_add_self (status : TaskStatus) :
    (table.add status).status? table.length = some status := by
  simp [TaskTable.add, TaskTable.status?]

/-- Adding a task leaves those there are alone. -/
theorem status?_add_of_lt (status : TaskStatus) (inside : task < table.length) :
    (table.add status).status? task = table.status? task := by
  simp only [TaskTable.add, TaskTable.status?, List.getElem?_append_left inside]

end TaskTable

namespace Dispatch

/-! ## One invocation -/

namespace Floor

variable (floor : Floor) (thread : Thread) {task other : Nat}

/-- What is known of an invocation is known part by part. -/
theorem view_eq_iff {view : View} : floor.view task = view ↔
    floor.phases[task]? = view.phase ∧ floor.tasks.status? task = view.status ∧
      floor.course task = view.course := by
  obtain ⟨phase, status, course⟩ := view
  simp [Floor.view]

section Parts

variable (world : World) (tasks : TaskTable) (phase : Phase) (occurrences : List Occurrence)

@[simp] theorem phases_write : (floor.write task occurrences).phases = floor.phases := rfl

@[simp] theorem tasks_write : (floor.write task occurrences).tasks = floor.tasks := rfl

@[simp] theorem phases_move : (floor.move task phase).phases = floor.phases.set task phase := rfl

@[simp] theorem tasks_move : (floor.move task phase).tasks = floor.tasks := rfl

@[simp] theorem course_move : (floor.move task phase).course = floor.course := rfl

@[simp] theorem phases_withWorld : (floor.withWorld world).phases = floor.phases := rfl

@[simp] theorem tasks_withWorld : (floor.withWorld world).tasks = floor.tasks := rfl

@[simp] theorem course_withWorld : (floor.withWorld world).course = floor.course := rfl

@[simp] theorem phases_withTasks : (floor.withTasks tasks).phases = floor.phases := rfl

@[simp] theorem tasks_withTasks : (floor.withTasks tasks).tasks = tasks := rfl

@[simp] theorem course_withTasks : (floor.withTasks tasks).course = floor.course := rfl

/-- What is written down of an invocation goes on with its course. -/
@[simp] theorem course_write_self :
    (floor.write task occurrences).course task = floor.course task ++ occurrences := by
  have own : (fun entry : Nat × Occurrence => if entry.1 = task then some entry.2 else none) ∘
      (task, ·) = some := by
    ext occurrence
    simp
  simp only [course, write, List.filterMap_append, List.filterMap_map, own, List.filterMap_some]

/-- What is written down of one invocation is not known of another. -/
theorem view_write_of_ne (distinct : task ≠ other) :
    (floor.write task occurrences).view other = floor.view other := by
  have course : (floor.write task occurrences).course other = floor.course other := by
    have foreign : (occurrences.map (task, ·)).filterMap (fun entry : Nat × Occurrence =>
        if entry.1 = other then some entry.2 else none) = [] := by
      refine List.filterMap_eq_nil_iff.2 ?_
      intro entry member
      obtain ⟨occurrence, _, rfl⟩ := List.mem_map.1 member
      exact if_neg distinct
    simp only [Floor.course, write, List.filterMap_append, foreign, List.append_nil]
  simp [view, course]

/-- Moving one invocation leaves another where it is. -/
theorem view_move_of_ne (distinct : task ≠ other) :
    (floor.move task phase).view other = floor.view other := by
  simp [view, distinct]

@[simp] theorem view_withWorld : (floor.withWorld world).view task = floor.view task := rfl

/-- Other tasks make no difference to an invocation whose own status is the same. -/
theorem view_withTasks (same : tasks.status? task = floor.tasks.status? task) :
    (floor.withTasks tasks).view task = floor.view task := by
  simp [view, same]

end Parts

/-- Cancelling takes one step with the task. -/
theorem cancel_eq (task : Nat) : floor.cancel task =
    (floor.withTasks (floor.tasks.cancel task).2).write task
      (if (floor.tasks.cancel task).1 then [.cancelled] else []) := rfl

/-- Cancelling a task that waits succeeds. -/
theorem view_cancel_of_pending (pending : floor.tasks.status? task = some .pending) :
    (floor.cancel task).view task =
      ⟨floor.phases[task]?, some .cancelled, floor.course task ++ [.cancelled]⟩ := by
  have step : (floor.tasks.cancel task).1 = true ∧
      (floor.tasks.cancel task).2.status? task = some .cancelled :=
    TaskTable.step_of_known TaskStatus.cancel pending
  simp [cancel_eq, step.1, view, step.2]

/-- Cancelling a task that does not wait changes nothing. -/
theorem view_cancel_of_ne_pending {status : TaskStatus} (started : status ≠ .pending)
    (known : floor.tasks.status? task = some status) :
    (floor.cancel task).view task = floor.view task := by
  obtain ⟨answer, kept⟩ := TaskTable.step_of_known TaskStatus.cancel known
  rw [TaskStatus.cancel_of_ne_pending started, ← TaskTable.cancel] at answer kept
  simp [cancel_eq, answer, view, kept, known]

/-- Cancelling one task leaves the other invocations alone. -/
theorem view_cancel_of_ne (distinct : task ≠ other) :
    (floor.cancel task).view other = floor.view other := by
  have status : (floor.tasks.cancel task).2.status? other = floor.tasks.status? other :=
    floor.tasks.status?_step_of_ne task other _ distinct
  rw [cancel_eq, view_write_of_ne _ _ distinct, view_withTasks _ _ status]

/-- The unit of an invocation begins when its task does. -/
theorem take_of_begins {job : Deferred} {tasks : TaskTable}
    (phase : floor.phases[task]? = some (.waiting job))
    (begins : floor.tasks.begin task = (true, tasks)) :
    floor.take task = ((floor.withTasks tasks).move task (.begun job)).write task [.taken] := by
  simp only [take, phase, begins]

/-- A unit whose task does not begin is used up. -/
theorem take_of_stays {job : Deferred} {tasks : TaskTable}
    (phase : floor.phases[task]? = some (.waiting job))
    (stays : floor.tasks.begin task = (false, tasks)) :
    floor.take task = (floor.move task .spent).write task [.taken] := by
  simp only [take, phase, stays]

/-- A unit whose task waits begins when it is taken. -/
theorem view_take_of_pending {job : Deferred} (phase : floor.phases[task]? = some (.waiting job))
    (pending : floor.tasks.status? task = some .pending) :
    (floor.take task).view task =
      ⟨some (.begun job), some .running, floor.course task ++ [.taken]⟩ := by
  have inside : task < floor.phases.length := (List.getElem?_eq_some_iff.1 phase).1
  obtain ⟨answer, status⟩ := TaskTable.begin_of_pending pending
  rw [floor.take_of_begins phase (Prod.ext answer rfl)]
  simp [view, status, inside]

/-- A unit whose task was cancelled is used up when it is taken. -/
theorem view_take_of_cancelled {job : Deferred} (phase : floor.phases[task]? = some (.waiting job))
    (cancelled : floor.tasks.status? task = some .cancelled) :
    (floor.take task).view task =
      ⟨some .spent, some .cancelled, floor.course task ++ [.taken]⟩ := by
  have inside : task < floor.phases.length := (List.getElem?_eq_some_iff.1 phase).1
  have answer : (floor.tasks.begin task).1 = false :=
    (TaskTable.step_of_known TaskStatus.begin cancelled).1
  rw [floor.take_of_stays phase (Prod.ext answer rfl)]
  simp [view, cancelled, inside]

/-- A unit can only be taken while an executor has it. -/
theorem take_of_not_waiting (absent : ∀ job, floor.phases[task]? ≠ some (.waiting job)) :
    floor.take task = floor := by
  unfold take
  split
  · next job phase => exact absurd phase (absent job)
  · rfl

/-- Taking one unit leaves the other invocations alone. -/
theorem view_take_of_ne (distinct : task ≠ other) :
    (floor.take task).view other = floor.view other := by
  have status : (floor.tasks.begin task).2.status? other = floor.tasks.status? other :=
    floor.tasks.status?_step_of_ne task other _ distinct
  unfold take
  split
  · split
    · next tasks begun =>
      have step : tasks = (floor.tasks.begin task).2 := by rw [begun]
      rw [view_write_of_ne _ _ distinct, view_move_of_ne _ _ distinct, step,
        view_withTasks _ _ status]
    · rw [view_write_of_ne _ _ distinct, view_move_of_ne _ _ distinct]
  · rfl

section Advance

variable {job : Deferred} {result : Except Failure (Option Payload)} {outcome : WorkOutcome}

/-- The provider of a unit that has begun is called next. -/
theorem advance_of_begun (phase : floor.phases[task]? = some (.begun job)) :
    floor.advance thread task = floor.callProvider thread task job := by
  simp only [advance, phase]

/-- Someone is told of the call of the provider next. -/
theorem advance_of_called (phase : floor.phases[task]? = some (.called job result)) :
    floor.advance thread task = floor.tell thread task job result := by
  simp only [advance, phase]

/-- The task ends next once someone has been told. -/
theorem advance_of_told (phase : floor.phases[task]? = some (.told outcome)) :
    floor.advance thread task = floor.finish task outcome := by
  simp only [advance, phase]

end Advance

/-- The run of a unit goes on with the call of the provider. -/
theorem view_advance_of_begun {job : Deferred} (phase : floor.phases[task]? = some (.begun job)) :
    (floor.advance thread task).view task =
      ⟨some (.called job (job.dispatcher.provider.result job.invocation.input)),
        floor.tasks.status? task,
        floor.course task ++ .called job.invocation.input ::
          (job.dispatcher.provider.handling job.invocation.input).map .heard⟩ := by
  have inside : task < floor.phases.length := (List.getElem?_eq_some_iff.1 phase).1
  simp [floor.advance_of_begun thread phase, callProvider, view, inside]

/-- After the call of the provider someone is told. -/
theorem view_advance_of_called {job : Deferred} {result : Except Failure (Option Payload)}
    (phase : floor.phases[task]? = some (.called job result)) :
    (floor.advance thread task).view task =
      ⟨some (.told (job.tell thread result floor.session.world).1), floor.tasks.status? task,
        floor.course task ++
          ((job.tell thread result floor.session.world).2.since floor.session.world).map
            .heard⟩ := by
  have inside : task < floor.phases.length := (List.getElem?_eq_some_iff.1 phase).1
  simp [floor.advance_of_called thread phase, tell, view, inside]

/-- Last of all the task ends. -/
theorem view_advance_of_told {outcome : WorkOutcome}
    (phase : floor.phases[task]? = some (.told outcome)) :
    (floor.advance thread task).view task =
      ⟨some .spent, (floor.tasks.status? task).map fun _ => outcome.status,
        floor.course task ++ [.ended outcome]⟩ := by
  have inside : task < floor.phases.length := (List.getElem?_eq_some_iff.1 phase).1
  simp [floor.advance_of_told thread phase, finish, view, inside, TaskTable.status?_finish_self]

/-- Going on with the run of one unit leaves the other invocations alone. -/
theorem view_advance_of_ne (distinct : task ≠ other) :
    (floor.advance thread task).view other = floor.view other := by
  unfold advance
  split
  · rw [callProvider, view_write_of_ne _ _ distinct, view_move_of_ne _ _ distinct, view_withWorld]
  · rw [tell, view_write_of_ne _ _ distinct, view_move_of_ne _ _ distinct, view_withWorld]
  · next outcome _ =>
    have status := floor.tasks.status?_finish_of_ne task other outcome distinct
    rw [finish, view_write_of_ne _ _ distinct, view_move_of_ne _ _ distinct,
      view_withTasks _ _ status]
  · rfl

/-- Only a unit that is being run can go on. -/
theorem advance_of_resting (begun : ∀ job, floor.phases[task]? ≠ some (.begun job))
    (called : ∀ job result, floor.phases[task]? ≠ some (.called job result))
    (told : ∀ outcome, floor.phases[task]? ≠ some (.told outcome)) :
    floor.advance thread task = floor := by
  unfold advance
  split
  · next job phase => exact absurd phase (begun job)
  · next job result phase => exact absurd phase (called job result)
  · next outcome phase => exact absurd phase (told outcome)
  · rfl

end Floor

end Dispatch

end SoapDispatch
