import SoapDispatch.Proofs.Course
import SoapDispatch.Proofs.Preparation

/-!
# Numbers of deferred invocations

A deferred invocation has the number of its task. `Floor.Aligned` holds on every floor: there are as
many invocations as tasks, and nothing is written down of tasks to come.
-/

namespace SoapDispatch.Dispatch

open SoapDispatch.Soap

/-! ## New invocations -/

namespace Session

variable (session : Session) (call : Call)

/-- How an invocation is prepared now, and its executor. -/
def admission : Except Failure (Invocation × Executor) :=
  call.dispatcher.admission session.memory session.workshop.registry call.request

/-- The session after an invocation has been refused. -/
def refuse (failure : Failure) : Session :=
  { session.resolved call.dispatcher with
    workshop := (session.workshop.addTask (.failed failure.message)).2
    world := (call.tellRefusal failure session.world).2 }

/-- The session with the task of a prepared invocation. -/
def accept : Session :=
  { session.resolved call.dispatcher with workshop := (session.workshop.addTask .pending).2 }

/-- A failure that has been told of without a panic leaves a task that has failed. -/
theorem giveUp_of_silent (failure : Failure) {told : Option Panic × World}
    (silent : told.1 = none) : session.giveUp failure told =
      (.ok session.workshop.tasks.nextNumber,
        { session with
          workshop := (session.workshop.addTask (.failed failure.message)).2
          world := told.2 }) := by
  obtain ⟨panic, world⟩ := told
  cases silent
  rfl

variable {session call}

/-- A refused invocation gives the number of a task that has failed, if whoever is told of it does
not panic. -/
theorem defer_of_silent {failure : Failure}
    (silent : call.panicAt (call.failureNotice failure) = none)
    (refused : session.admission call = .error failure) :
    session.defer call = (.ok session.workshop.tasks.nextNumber, session.refuse call failure) := by
  simp only [admission] at refused
  simp only [defer_eq, prepareDeferred_eq, refused,
    giveUp_of_silent _ _ ((call.fst_tellRefusal _ _).trans silent)]
  rfl

/-- Where nobody panics, a refused invocation gives the number of a task that has failed. -/
theorem defer_of_refused (quiet : call.Quiet) {failure : Failure}
    (refused : session.admission call = .error failure) :
    session.defer call = (.ok session.workshop.tasks.nextNumber, session.refuse call failure) :=
  defer_of_silent (quiet.panicAt _) refused

/-- An admitted invocation gives the number of its task, after its unit has been handed in. -/
theorem defer_of_admitted {invocation : Invocation} {executor : Executor}
    (admitted : session.admission call = .ok (invocation, executor)) :
    session.defer call = (.ok session.workshop.tasks.nextNumber,
      ((session.resolved call.dispatcher).submit executor (call.job invocation)).2) := by
  simp only [admission] at admitted
  simp only [defer_eq, prepareDeferred_eq, admitted]
  rfl

end Session

namespace Floor

variable {floor : Floor} {call : Call}

/-- An invocation that cannot be prepared leaves a task that has failed and one notice. -/
theorem invoke_of_refused (quiet : call.Quiet) {failure : Failure}
    (refused : floor.session.admission call = .error failure) :
    floor.invoke call =
      (floor.enroll (floor.session.refuse call failure) .refused).write floor.tasks.length
        ((call.failureNotice failure).map .heard) := by
  simp only [Session.admission] at refused
  rw [← call.since_tellRefusal failure floor.session.world]
  simp only [invoke, Session.prepareDeferred_eq, refused,
    Session.giveUp_of_silent _ _ (quiet.fst_tellRefusal _ _)]
  rfl

/-- An invocation that is prepared leaves a task that waits and one unit. -/
theorem invoke_of_admitted {invocation : Invocation} {executor : Executor}
    (admitted : floor.session.admission call = .ok (invocation, executor)) :
    floor.invoke call =
      (floor.enroll (floor.session.accept call) (.waiting (call.job invocation))).write
        floor.tasks.length [.submitted] := by
  simp only [Session.admission] at admitted
  simp only [invoke, Session.prepareDeferred_eq, admitted]
  rfl

/-- Either way an invocation gets a task and a phase. -/
theorem exists_invoke_eq (quiet : call.Quiet) : ∃ session phase status occurrences,
    session.workshop.tasks = floor.tasks.add status ∧
      floor.invoke call = (floor.enroll session phase).write floor.tasks.length occurrences := by
  rcases prepared : floor.session.admission call with failure | ⟨invocation, executor⟩
  · exact ⟨_, _, _, _, rfl, invoke_of_refused quiet prepared⟩
  · exact ⟨_, _, _, _, rfl, invoke_of_admitted prepared⟩

end Floor

/-! ## Numbering -/

/-- Something that is done without a panic of supplied code. -/
def Action.Quiet : Action → Prop
  | .invoke call => call.Quiet
  | _ => True

namespace Floor

/-- What every quiet action keeps holds after any of them. -/
theorem after_of_act (holds : Floor → Prop)
    (kept : ∀ floor action, action.Quiet → holds floor → holds (floor.act action)) {floor : Floor}
    (start : holds floor) {history : List Action} (quiet : ∀ action ∈ history, action.Quiet) :
    holds (floor.after history) := by
  induction history generalizing floor with
  | nil => exact start
  | cons action rest inductionHypothesis =>
    obtain ⟨calm, calmRest⟩ := List.forall_mem_cons.1 quiet
    exact inductionHypothesis (kept floor action calm start) calmRest

/-- Invocations have the numbers of their tasks, and nothing is written down of tasks to come. -/
structure Aligned (floor : Floor) : Prop where
  phases : floor.phases.length = floor.tasks.length
  log : ∀ entry ∈ floor.log, entry.1 < floor.tasks.length

theorem aligned_opening (memory : TypeMemory) (registry : ExecutorRegistry) (world : World) :
    (opening memory registry world).Aligned :=
  ⟨rfl, by simp [opening]⟩

namespace Aligned

variable {floor : Floor} {task : Nat}

/-- A task to come has no course yet. -/
theorem course_next (aligned : floor.Aligned) : floor.course floor.tasks.length = [] := by
  apply List.filterMap_eq_nil_iff.2
  intro entry written
  have earlier := aligned.log entry written
  exact if_neg (by omega)

section Enroll

variable {session : Session} {phase : Phase} {status : TaskStatus} {occurrences : List Occurrence}

/-- What is known of a new invocation is what it was admitted with. -/
theorem view_enroll_self (aligned : floor.Aligned)
    (tasks : session.workshop.tasks = floor.tasks.add status) :
    ((floor.enroll session phase).write floor.tasks.length occurrences).view floor.tasks.length =
      ⟨some phase, some status, occurrences⟩ := by
  have course : (floor.enroll session phase).course floor.tasks.length = [] := aligned.course_next
  have known : (floor.enroll session phase).tasks = floor.tasks.add status := tasks
  have added : (floor.enroll session phase).phases = floor.phases ++ [phase] := rfl
  have newest : (floor.phases ++ [phase])[floor.tasks.length]? = some phase := by
    simp [← aligned.phases]
  simp [view, course, known, added, newest]

/-- A new invocation leaves those before it alone. -/
theorem view_enroll_of_lt (aligned : floor.Aligned)
    (tasks : session.workshop.tasks = floor.tasks.add status) (inside : task < floor.tasks.length) :
    ((floor.enroll session phase).write floor.tasks.length occurrences).view task =
      floor.view task := by
  have known : (floor.enroll session phase).tasks = floor.tasks.add status := tasks
  have added : (floor.enroll session phase).phases = floor.phases ++ [phase] := rfl
  have within : task < floor.phases.length := aligned.phases ▸ inside
  rw [view_write_of_ne _ _ (Nat.ne_of_gt inside)]
  simp only [view, known, added, TaskTable.status?_add_of_lt _ _ _ inside,
    List.getElem?_append_left within]
  rfl

/-- The numbers still agree after a new invocation. -/
theorem enroll (aligned : floor.Aligned)
    (tasks : session.workshop.tasks = floor.tasks.add status) :
    ((floor.enroll session phase).write floor.tasks.length occurrences).Aligned := by
  have known : ((floor.enroll session phase).write floor.tasks.length occurrences).tasks =
      floor.tasks ++ [status] := tasks
  constructor
  · rw [known]
    simp [Floor.enroll, Floor.write, aligned.phases]
  · intro entry written
    rw [known, List.length_append]
    rcases List.mem_append.1 written with earlier | new
    · exact Nat.lt_add_right _ (aligned.log entry earlier)
    · obtain ⟨occurrence, _, rfl⟩ := List.mem_map.1 new
      simp

end Enroll

/-- The numbers still agree after a step that adds no task and writes only of tasks there are. -/
theorem step (aligned : floor.Aligned) {next : Floor} {occurrences : List Occurrence}
    (phases : next.phases.length = floor.phases.length)
    (tasks : next.tasks.length = floor.tasks.length)
    (log : next.log = floor.log ++ occurrences.map (task, ·))
    (inside : occurrences ≠ [] → task < floor.tasks.length) : next.Aligned := by
  constructor
  · rw [phases, tasks, aligned.phases]
  · intro entry written
    rw [log] at written
    rw [tasks]
    rcases List.mem_append.1 written with earlier | new
    · exact aligned.log entry earlier
    · obtain ⟨occurrence, here, rfl⟩ := List.mem_map.1 new
      exact inside (List.ne_nil_of_mem here)

theorem cancel (aligned : floor.Aligned) (task : Nat) : (floor.cancel task).Aligned := by
  rw [cancel_eq]
  refine aligned.step rfl (TaskTable.length_step _ _ _) rfl fun written => ?_
  -- Only a task that there is can be cancelled.
  rcases Nat.lt_or_ge task floor.tasks.length with inside | outside
  · exact inside
  · have answer : (floor.tasks.cancel task).1 = false := by
      simp [TaskTable.cancel, TaskTable.fst_step, TaskTable.status?,
        List.getElem?_eq_none outside]
    exact absurd (if_neg (by simp [answer])) written

theorem take (aligned : floor.Aligned) (task : Nat) : (floor.take task).Aligned := by
  unfold Floor.take
  split
  · next job phase =>
    have inside : task < floor.tasks.length :=
      aligned.phases ▸ (List.getElem?_eq_some_iff.1 phase).1
    split
    · next tasks begins =>
      exact aligned.step (by simp) (TaskTable.length_of_begin begins) rfl fun _ => inside
    · exact aligned.step (by simp) rfl rfl fun _ => inside
  · exact aligned

theorem advance (aligned : floor.Aligned) (thread : Thread) (task : Nat) :
    (floor.advance thread task).Aligned := by
  have inside {phase : Phase} (known : floor.phases[task]? = some phase) :
      task < floor.tasks.length :=
    aligned.phases ▸ (List.getElem?_eq_some_iff.1 known).1
  unfold Floor.advance
  split
  · next phase =>
    exact aligned.step (by simp [callProvider]) rfl rfl fun _ => inside phase
  · next phase => exact aligned.step (by simp [tell]) rfl rfl fun _ => inside phase
  · next phase =>
    exact aligned.step (by simp [finish]) (TaskTable.length_finish _ _ _) rfl fun _ =>
      inside phase
  · exact aligned

theorem invoke (aligned : floor.Aligned) {call : Call} (quiet : call.Quiet) :
    (floor.invoke call).Aligned := by
  obtain ⟨session, phase, status, occurrences, tasks, made⟩ := exists_invoke_eq quiet
  exact made ▸ aligned.enroll tasks

/-- The numbers agree whatever is done. -/
theorem act (aligned : floor.Aligned) {action : Action} (quiet : action.Quiet) :
    (floor.act action).Aligned := by
  cases action with
  | invoke call => exact aligned.invoke quiet
  | cancel task => exact aligned.cancel task
  | take task => exact aligned.take task
  | advance thread task => exact aligned.advance thread task
  | disturb memory registry ids => exact ⟨aligned.phases, aligned.log⟩

/-- The numbers agree after any history. -/
theorem after (aligned : floor.Aligned) {history : List Action}
    (quiet : ∀ action ∈ history, action.Quiet) : (floor.after history).Aligned :=
  after_of_act Aligned (fun _ _ calm known => known.act calm) aligned quiet

end Aligned

/-! ## Growth -/

variable {floor : Floor}

/-- No action removes a task. -/
theorem length_tasks_act {action : Action} (quiet : action.Quiet) :
    floor.tasks.length ≤ (floor.act action).tasks.length := by
  cases action with
  | invoke call =>
    obtain ⟨session, phase, status, occurrences, tasks, made⟩ := floor.exists_invoke_eq quiet
    have added : (floor.act (.invoke call)).tasks = floor.tasks ++ [status] := by
      rw [act, made]
      exact tasks
    simp [added]
  | cancel task => exact Nat.le_of_eq (TaskTable.length_step _ _ _).symm
  | take task =>
    simp only [act, take]
    split
    · split
      · next tasks begins => exact Nat.le_of_eq (TaskTable.length_of_begin begins).symm
      · exact Nat.le_refl _
    · exact Nat.le_refl _
  | advance thread task =>
    simp only [act, advance]
    split
    · exact Nat.le_refl _
    · exact Nat.le_refl _
    · exact Nat.le_of_eq (TaskTable.length_finish _ _ _).symm
    · exact Nat.le_refl _
  | disturb memory registry ids => exact Nat.le_refl _

/-- An action only adds to what is written down. -/
theorem log_act (action : Action) : floor.log <+: (floor.act action).log := by
  cases action with
  | invoke call =>
    simp only [act, invoke]
    split
    · split
      · exact List.prefix_append _ _
      · exact List.prefix_refl _
    · exact List.prefix_append _ _
  | cancel task => exact List.prefix_append _ _
  | take task =>
    simp only [act, take]
    split
    · split <;> exact List.prefix_append _ _
    · exact List.prefix_refl _
  | advance thread task =>
    simp only [act, advance]
    split <;> first | exact List.prefix_append _ _ | exact List.prefix_refl _
  | disturb memory registry ids => exact List.prefix_refl _

/-- The course of an invocation only ever goes on. -/
theorem course_after (task : Nat) (history : List Action) :
    floor.course task <+: (floor.after history).course task := by
  induction history generalizing floor with
  | nil => exact List.prefix_refl _
  | cons action rest inductionHypothesis =>
    have next : floor.course task <+: (floor.act action).course task :=
      (floor.log_act action).filterMap _
    exact next.trans inductionHypothesis

end Floor

end SoapDispatch.Dispatch
