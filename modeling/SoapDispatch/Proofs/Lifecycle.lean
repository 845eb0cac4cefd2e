import SoapDispatch.Proofs.Course

/-!
# Lifecycles of tasks

The task of one unit of work under everything that can be done with it: whoever holds the handle may
ask for the status and try to cancel, the running job included, while some thread runs the unit.
Every clone of the handle stands for the same status, so a step does not say which one it is made
through.

`Lifecycle.Step` cuts running a unit into the steps that others may come between: the task begins,
the job starts, the job stops, the task is finished. A unit is used up by being run, so the steps of
a run are taken once. Finishing a task looks at nothing; that only running tasks are finished is a
law of the histories, `Lifecycle.Standing` being the invariant behind it.

These are the steps that a workshop takes with the status it keeps of a task: cancelling, beginning
and finishing answer and leave behind what the steps do, and running a unit is a history of them.
-/

namespace SoapDispatch

namespace Lifecycle

/-- How far the run of a unit has got. -/
inductive Stage where
  /-- Nobody has run the unit. -/
  | unrun
  /-- The task has begun, and the job starts next. -/
  | begun
  /-- The job is running. -/
  | working
  /-- The job has stopped, and the task is finished next. -/
  | worked (outcome : WorkOutcome)
  /-- The run is over. -/
  | returned
deriving DecidableEq, Repr

/-- A task and the run of its unit. -/
structure Life where
  status : TaskStatus := .pending
  stage : Stage := .unrun
deriving DecidableEq, Repr

/-- Who uses a handle. -/
inductive Party where
  | thread (number : Nat)
  /-- The job of the task itself. -/
  | job
deriving DecidableEq, Repr

/-- Something that is done in one step. -/
inductive Deed where
  /-- Someone tries to cancel, and is told whether the task was still waiting. -/
  | cancelled (party : Party) (answer : Bool)
  /-- Someone asks for the status. -/
  | looked (party : Party) (status : TaskStatus)
  /-- A run tries to begin the task; it is over at once if the task does not wait any more. -/
  | begun (answer : Bool)
  /-- The job starts. -/
  | started
  /-- The job returns or panics. -/
  | stopped (outcome : WorkOutcome)
  /-- The task is finished. -/
  | finished
deriving DecidableEq, Repr

/-- Whether someone is there to use a handle; the job is while it runs. -/
def Life.Admits (life : Life) : Party → Prop
  | .thread _ => True
  | .job => life.stage = .working

/-- One step of anyone. -/
inductive Step : Life → Deed → Life → Prop where
  | cancel {life : Life} {party : Party} (admitted : life.Admits party) :
      Step life (.cancelled party life.status.cancel.1)
        { life with status := life.status.cancel.2 }
  | look {life : Life} {party : Party} (admitted : life.Admits party) :
      Step life (.looked party life.status) life
  | begin (status : TaskStatus) :
      Step ⟨status, .unrun⟩ (.begun status.begin.1)
        ⟨status.begin.2, if status.begin.1 then .begun else .returned⟩
  | start (status : TaskStatus) : Step ⟨status, .begun⟩ .started ⟨status, .working⟩
  | stop (status : TaskStatus) (outcome : WorkOutcome) :
      Step ⟨status, .working⟩ (.stopped outcome) ⟨status, .worked outcome⟩
  | finish (status : TaskStatus) (outcome : WorkOutcome) :
      Step ⟨status, .worked outcome⟩ .finished ⟨status.finish outcome, .returned⟩

/-- A step that was taken. -/
structure Moment where
  before : Life
  deed : Deed
  after : Life

/-- The steps of any parties in any order, from one life to another. -/
inductive Steps (start : Life) : List Moment → Life → Prop where
  | refl : Steps start [] start
  | step {moments : List Moment} {life next : Life} {deed : Deed}
      (prior : Steps start moments life) (taken : Step life deed next) :
      Steps start (moments ++ [⟨life, deed, next⟩]) next

namespace Deed

/-- Whether a deed changes something. -/
def tells : Deed → Bool
  | cancelled _ answer => answer
  | looked _ _ => false
  | _ => true

/-- Whether a deed is the start of the job. -/
def starts : Deed → Bool
  | started => true
  | _ => false

end Deed

/-- The deeds of a history, in order. -/
def deeds (moments : List Moment) : List Deed :=
  moments.map Moment.deed

/-! ## The invariant -/

/-- All the situations a new task can come to, with the deeds that have led there. -/
inductive Standing : List Deed → Life → Prop where
  | waiting : Standing [] ⟨.pending, .unrun⟩
  | cancelled (party : Party) : Standing [.cancelled party true] ⟨.cancelled, .unrun⟩
  | dropped (party : Party) :
      Standing [.cancelled party true, .begun false] ⟨.cancelled, .returned⟩
  | begun : Standing [.begun true] ⟨.running, .begun⟩
  | working : Standing [.begun true, .started] ⟨.running, .working⟩
  | worked (outcome : WorkOutcome) :
      Standing [.begun true, .started, .stopped outcome] ⟨.running, .worked outcome⟩
  | ended (outcome : WorkOutcome) :
      Standing [.begun true, .started, .stopped outcome, .finished] ⟨outcome.status, .returned⟩

/-- The status that a job leaves is neither waiting nor cancelled. -/
theorem status_outcome (outcome : WorkOutcome) :
    outcome.status = .completed ∨ ∃ message, outcome.status = .failed message := by
  cases outcome with
  | success => exact .inl rfl
  | failure reason => exact .inr ⟨reason.message, rfl⟩
  | panic cause => exact .inr ⟨cause.message, rfl⟩

/-- Every step leads from a situation that a task can be in to another one. -/
theorem Standing.step {course : List Deed} {life next : Life} {deed : Deed}
    (standing : Standing course life) (taken : Step life deed next) :
    Standing (course ++ if deed.tells then [deed] else []) next := by
  -- A handle that finds the task begun or over changes nothing.
  have kept {party : Party} (started : life.status ≠ .pending) : Standing
      (course ++ if (Deed.cancelled party life.status.cancel.1).tells then
        [.cancelled party life.status.cancel.1] else [])
      { life with status := life.status.cancel.2 } := by
    have same := TaskStatus.cancel_of_ne_pending started
    simpa [same, Deed.tells] using standing
  cases taken with
  | @cancel _ party admitted =>
    cases standing with
    | waiting => exact .cancelled party
    | cancelled => exact kept (by simp)
    | dropped => exact kept (by simp)
    | begun => exact kept (by simp)
    | working => exact kept (by simp)
    | worked outcome => exact kept (by simp)
    | ended outcome =>
      refine kept ?_
      rcases status_outcome outcome with same | ⟨message, same⟩ <;> simp [same]
  | look admitted => simpa [Deed.tells] using standing
  | begin status =>
    cases standing with
    | waiting => exact .begun
    | cancelled party => exact .dropped party
  | start status =>
    cases standing with
    | begun => exact .working
  | stop status outcome =>
    cases standing with
    | working => exact .worked outcome
  | finish status outcome =>
    cases standing with
    | worked => exact .ended outcome

/-- A new task stays in the situations it can be in. -/
theorem Steps.standing {moments : List Moment} {life : Life} (history : Steps {} moments life) :
    Standing ((deeds moments).filter Deed.tells) life := by
  induction history with
  | refl => exact .waiting
  | @step moments life next deed prior taken inductionHypothesis =>
    have course : (deeds (moments ++ [⟨life, deed, next⟩])).filter Deed.tells =
        (deeds moments).filter Deed.tells ++ if deed.tells then [deed] else [] := by
      simp only [deeds, List.map_append, List.map_singleton, List.filter_append]
      cases tells : deed.tells <;> simp [tells]
    exact course ▸ inductionHypothesis.step taken

/-- Every step of a history is taken behind a history of its own. -/
theorem Steps.exists_of_mem {start life : Life} {moments : List Moment} {moment : Moment}
    (history : Steps start moments life) (member : moment ∈ moments) :
    (∃ prior, Steps start prior moment.before) ∧ Step moment.before moment.deed moment.after := by
  induction history with
  | refl => exact absurd member List.not_mem_nil
  | step prior taken inductionHypothesis =>
    rcases List.mem_append.1 member with earlier | last
    · exact inductionHypothesis earlier
    · rw [List.mem_singleton.1 last]
      exact ⟨⟨_, prior⟩, taken⟩

/-! ## What holds of every step -/

section Moment

variable {course : List Deed} {life next : Life} {deed : Deed}

end Moment

section History

variable {moments : List Moment} {life : Life}

end History

/-! ## Tasks in a workshop -/

section Stored

variable {Job : Type} {workshop : Workshop Job} {table : TaskTable} {task : Nat}
  {status : TaskStatus}

end Stored

section Workshop

variable {Job World : Type} (workshop : Workshop Job) (perform : Workshop.Performance Job World)
  (thread : Thread) (unit : WorkUnit Job) (world : World) {status : TaskStatus}

end Workshop

end Lifecycle

end SoapDispatch
