import SoapDispatch.Executor
import SoapDispatch.Task

/-!
# Deferred work

Work waits in a unit together with the number of its task. Running a unit does the work unless the
task has been cancelled; either way the unit is used up. Where a unit is run is up to the executor
it is handed to; a queueing executor only keeps it, for whoever asks for the next unit.

Work may do things to a world of any kind. What it does is given by the function `perform`, which is
told the thread that the unit is run on.
-/

namespace SoapDispatch

/-- The thread that something happens on, as the caller sees it. -/
inductive Thread where
  | caller
  | other
deriving DecidableEq, Repr

/-- A piece of work with the number of its task. -/
structure WorkUnit (Job : Type) where
  task : Nat
  job : Job

/-- Tasks, units waiting to be asked for, and executors. -/
structure Workshop (Job : Type) where
  tasks : TaskTable := []
  queue : List (WorkUnit Job) := []
  registry : ExecutorRegistry := []

namespace Workshop

variable {Job World : Type}

/-- What doing the work of a unit on a thread leads to. -/
abbrev Performance (Job World : Type) := Thread → WorkUnit Job → World → WorkOutcome × World

/-- Runs a unit: begins its task, does the work, and ends the task; a task that cannot begin any
more is left as it is and its work undone. -/
def run (workshop : Workshop Job) (perform : Performance Job World) (thread : Thread)
    (unit : WorkUnit Job) (world : World) : Workshop Job × World :=
  match workshop.tasks.begin unit.task with
  | (false, _) => (workshop, world)
  | (true, tasks) =>
    let (outcome, world) := perform thread unit world
    ({ workshop with tasks := tasks.finish unit.task outcome }, world)

/-- Hands a unit to an executor. -/
def submit (workshop : Workshop Job) (perform : Performance Job World) (executor : Executor)
    (unit : WorkUnit Job) (world : World) : Workshop Job × World :=
  match executor with
  | .inline => workshop.run perform .caller unit world
  | .pooled => workshop.run perform .other unit world
  | .queued => ({ workshop with queue := workshop.queue ++ [unit] }, world)

/-- Adds a task that waits, and tells its number. -/
def addTask (workshop : Workshop Job) (status : TaskStatus) : Nat × Workshop Job :=
  (workshop.tasks.nextNumber, { workshop with tasks := workshop.tasks.add status })

/-- Cancels a task; tells whether it was still waiting. -/
def cancel (workshop : Workshop Job) (task : Nat) : Bool × Workshop Job :=
  let (cancelled, tasks) := workshop.tasks.cancel task
  (cancelled, { workshop with tasks })

/-- Registers an executor for a role. -/
def register (workshop : Workshop Job) (role : String) (executor : Executor) : Workshop Job :=
  { workshop with registry := workshop.registry.register role executor }

/-- Runs the unit that has waited longest, if there is one. -/
def runNext (workshop : Workshop Job) (perform : Performance Job World) (world : World) :
    Option (Workshop Job × World) :=
  match workshop.queue with
  | [] => none
  | unit :: rest => some ({ workshop with queue := rest }.run perform .caller unit world)

/-- Runs every unit that waits at the outset; tells how many there were. -/
def drain (workshop : Workshop Job) (perform : Performance Job World) (world : World) :
    Nat × Workshop Job × World :=
  (workshop.queue.length,
    workshop.queue.foldl (fun state unit => state.1.run perform .caller unit state.2)
      ({ workshop with queue := [] }, world))

end Workshop

end SoapDispatch
