import SoapDispatch.Failure

/-!
# Tasks

A deferred piece of work is followed through a task. A task waits, runs and ends; it can be
cancelled while it waits. Cancelling, beginning and finishing are each one step, whichever threads
they are made by, and `run` is beginning, then the work itself, then finishing.
-/

namespace SoapDispatch

/-- How far a task has come. -/
inductive TaskStatus where
  | pending
  | running
  | completed
  /-- Ended by a failure, of which the message of the root cause is kept. -/
  | failed (message : String)
  | cancelled
deriving DecidableEq, Repr

/-- How a piece of work ends. -/
inductive WorkOutcome where
  | success
  | failure (failure : Failure)
  | panic (panic : Panic)
deriving DecidableEq, Repr

/-- The status of a task whose work has ended. -/
def WorkOutcome.status : WorkOutcome → TaskStatus
  | success => .completed
  | failure reason => .failed reason.message
  | panic cause => .failed cause.message

namespace TaskStatus

/-- Whether nothing happens to the task any more. -/
def isFinished : TaskStatus → Bool
  | pending | running => false
  | _ => true

/-- Cancels a task that has not begun; tells whether it was still waiting. -/
def cancel : TaskStatus → Bool × TaskStatus
  | pending => (true, cancelled)
  | status => (false, status)

/-- Begins a task that is waiting; tells whether it was. -/
def begin : TaskStatus → Bool × TaskStatus
  | pending => (true, running)
  | status => (false, status)

/-- Ends a task, whatever its status. -/
def finish (outcome : WorkOutcome) (_ : TaskStatus) : TaskStatus :=
  outcome.status

end TaskStatus

/-- Tasks by number, in the order they were created. -/
abbrev TaskTable := List TaskStatus

namespace TaskTable

/-- The number that the next task gets. -/
def nextNumber (table : TaskTable) : Nat :=
  table.length

/-- Adds a task. -/
def add (table : TaskTable) (status : TaskStatus) : TaskTable :=
  table ++ [status]

/-- The status of a task. -/
def status? (table : TaskTable) (task : Nat) : Option TaskStatus :=
  table[task]?

/-- Takes a step with one task, with the answer that the step gives. -/
def step (table : TaskTable) (task : Nat) (change : TaskStatus → Bool × TaskStatus) :
    Bool × TaskTable :=
  match table[task]? with
  | some status => ((change status).1, table.set task (change status).2)
  | none => (false, table)

/-- Cancels a task; tells whether it was still waiting. -/
def cancel (table : TaskTable) (task : Nat) : Bool × TaskTable :=
  table.step task TaskStatus.cancel

/-- Begins a task; tells whether it was waiting. -/
def begin (table : TaskTable) (task : Nat) : Bool × TaskTable :=
  table.step task TaskStatus.begin

/-- Ends a task. -/
def finish (table : TaskTable) (task : Nat) (outcome : WorkOutcome) : TaskTable :=
  table.modify task (.finish outcome)

end TaskTable

end SoapDispatch
