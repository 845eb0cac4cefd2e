import SoapDispatch.Dispatch.Session

/-!
# Histories of deferred invocations

A session runs a unit of work in one go. Units that are run by threads of their own leave room for
other things while they are run: invocations are made, tasks are cancelled, other units begin and
end. A floor is a session in which every deferred invocation has come some way, and an action takes
one of them one step further; a history is any list of actions.

The steps are those that `Workshop.run` takes at once: the task begins, the provider is called,
someone is told, the task ends. Each is one atomic step of the program, so every order that threads
can produce is a list of actions. What supplied code is told in a step is read off the records of
the session and never stated here again.

Providers are functions of their input. As every invocation of a history brings a dispatcher of its
own and calls its provider at most once, providers that remember earlier calls are covered too.
-/

namespace SoapDispatch.Dispatch

open SoapDispatch.Soap

/-! ## Deferred invocations -/

/-- How a deferred invocation is made. -/
inductive Discipline where
  | oneWay
  | async (callback : Callback)

/-- A deferred invocation as it is asked for. -/
structure Call where
  dispatcher : Dispatcher
  request : Request
  discipline : Discipline

namespace Call

/-- How responses to the invocation are built. -/
def responder (call : Call) : Responder :=
  .ofRequest call.dispatcher.endpoint call.request.message

/-- Who is told how the invocation has ended. -/
def recipient (call : Call) : Recipient :=
  match call.discipline with
  | .oneWay => .observer
  | .async callback => .callback callback call.responder

/-- What is left to do once the input is known. -/
def job (call : Call) (invocation : Invocation) : Deferred where
  dispatcher := call.dispatcher
  invocation
  recipient := call.recipient

/-- Tells of the failure that has kept the invocation from being prepared. -/
def tellRefusal (call : Call) (failure : Failure) (world : World) : Option Panic × World :=
  match call.discipline with
  | .oneWay =>
    world.discard .caller call.dispatcher.observer call.dispatcher.endpoint.operation failure
  | .async callback =>
    world.fail .caller callback failure.root (call.responder.respondFailure failure)

end Call

/-- Tells how the provider's call has ended whoever is to be told. -/
def Deferred.tell (job : Deferred) (thread : Thread) (result : Except Failure (Option Payload))
    (world : World) : WorkOutcome × World :=
  match job.recipient with
  | .observer =>
    reportTo thread job.dispatcher.observer job.dispatcher.endpoint.operation result world
  | .callback callback responder =>
    answerTo thread callback responder job.invocation.type result world

/-- Doing what is left of an invocation is calling the provider and then telling of it. -/
theorem Deferred.perform_eq (thread : Thread) (unit : WorkUnit Deferred) (world : World) :
    perform thread unit world =
      unit.job.tell thread
        (world.call thread unit.job.dispatcher.provider unit.job.invocation.input).1
        (world.call thread unit.job.dispatcher.provider unit.job.invocation.input).2 := by
  obtain ⟨task, dispatcher, invocation, recipient⟩ := unit
  cases recipient <;> rfl

/-- Makes a deferred invocation. -/
def Session.defer (session : Session) (call : Call) : Except Panic Nat × Session :=
  match call.discipline with
  | .oneWay => session.invokeOneWay call.dispatcher call.request
  | .async callback => session.invokeAsync call.dispatcher call.request callback

/-- Both disciplines end a refused invocation by telling of it, and hand a prepared one to its
executor. -/
theorem Session.defer_eq (session : Session) (call : Call) :
    session.defer call =
      match session.prepareDeferred call.dispatcher call.request with
      | (.error failure, session) =>
        session.giveUp failure (call.tellRefusal failure session.world)
      | (.ok (invocation, executor), session) =>
        (.ok (session.submit executor (call.job invocation)).1,
          (session.submit executor (call.job invocation)).2) := by
  obtain ⟨dispatcher, request, discipline⟩ := call
  cases discipline with
  | oneWay =>
    simp only [defer, invokeOneWay]
    rcases session.prepareDeferred dispatcher request with ⟨_ | ⟨invocation, executor⟩, after⟩ <;>
      rfl
  | async callback =>
    simp only [defer, invokeAsync]
    rcases session.prepareDeferred dispatcher request with ⟨_ | ⟨invocation, executor⟩, after⟩ <;>
      rfl

/-! ## Floors -/

/-- How far a deferred invocation has come. -/
inductive Phase where
  /-- It could not be prepared, so there is no unit. -/
  | refused
  /-- Its unit is with an executor that has not run it yet. -/
  | waiting (job : Deferred)
  /-- Its unit is being run, and the provider is called next. -/
  | begun (job : Deferred)
  /-- The provider has been called, and someone is told next. -/
  | called (job : Deferred) (result : Except Failure (Option Payload))
  /-- Whoever is to be told has been told, and the task ends next. -/
  | told (outcome : WorkOutcome)
  /-- Its unit is used up. -/
  | spent

/-- What happens in the course of a deferred invocation. -/
inductive Occurrence where
  /-- A unit of work is handed to an executor. -/
  | submitted
  /-- A cancellation succeeds. -/
  | cancelled
  /-- The executor runs the unit. -/
  | taken
  /-- The provider is called. -/
  | called (input : Option Payload)
  /-- Supplied code is told something: a handler, an observer or a callback. -/
  | heard (event : Event)
  /-- The work ends. -/
  | ended (outcome : WorkOutcome)

/-- What supplied code has been told since an earlier world. -/
def World.since (world earlier : World) : List Event :=
  (world.records.drop earlier.records.length).map Record.event

/-- A session between the steps of its deferred invocations. -/
structure Floor where
  session : Session
  /-- How far every invocation has come, by the number of its task. -/
  phases : List Phase := []
  /-- Everything that has happened, with the number of the task it concerns. -/
  log : List (Nat × Occurrence) := []

/-- What is known of one invocation. -/
structure View where
  phase : Option Phase
  status : Option TaskStatus
  course : List Occurrence

namespace Floor

/-- The tasks of a floor. -/
def tasks (floor : Floor) : TaskTable :=
  floor.session.workshop.tasks

/-- The floor before any invocation is made. -/
def opening (memory : TypeMemory) (registry : ExecutorRegistry) (world : World) : Floor where
  session := { memory, workshop := { registry }, world }

/-- What has happened in the course of one invocation. -/
def course (floor : Floor) (task : Nat) : List Occurrence :=
  floor.log.filterMap fun entry => if entry.1 = task then some entry.2 else none

/-- What is known of one invocation. -/
def view (floor : Floor) (task : Nat) : View where
  phase := floor.phases[task]?
  status := floor.tasks.status? task
  course := floor.course task

/-- Puts a world in place of the session's. -/
def withWorld (floor : Floor) (world : World) : Floor :=
  { floor with session := { floor.session with world } }

/-- Puts tasks in place of the session's. -/
def withTasks (floor : Floor) (tasks : TaskTable) : Floor :=
  { floor with
    session := { floor.session with workshop := { floor.session.workshop with tasks } } }

/-- Writes down what has happened to one invocation. -/
def write (floor : Floor) (task : Nat) (occurrences : List Occurrence) : Floor :=
  { floor with log := floor.log ++ occurrences.map (task, ·) }

/-- Takes one invocation to another phase. -/
def move (floor : Floor) (task : Nat) (phase : Phase) : Floor :=
  { floor with phases := floor.phases.set task phase }

/-- Adds the invocation with the number of the newest task. -/
def enroll (floor : Floor) (session : Session) (phase : Phase) : Floor :=
  { floor with session, phases := floor.phases ++ [phase] }

/-! ## Steps -/

/-- Makes an invocation. One that cannot be prepared is told of at once; the unit of every other one
goes to the executor that was selected for it, which may run it whenever it likes. -/
def invoke (floor : Floor) (call : Call) : Floor :=
  match floor.session.prepareDeferred call.dispatcher call.request with
  | (.error failure, session) =>
    let (given, session) := session.giveUp failure (call.tellRefusal failure session.world)
    match given with
    | .ok task =>
      (floor.enroll session .refused).write task
        ((session.world.since floor.session.world).map .heard)
    | .error _ => { floor with session }
  | (.ok (invocation, _), session) =>
    let (task, workshop) := session.workshop.addTask .pending
    (floor.enroll { session with workshop } (.waiting (call.job invocation))).write task
      [.submitted]

/-- Cancels a task. -/
def cancel (floor : Floor) (task : Nat) : Floor :=
  let (cancelled, session) := floor.session.cancel task
  { floor with session }.write task (if cancelled then [.cancelled] else [])

/-- Starts to run the unit of an invocation; it is used up at once if its task cannot begin. -/
def take (floor : Floor) (task : Nat) : Floor :=
  match floor.phases[task]? with
  | some (.waiting job) =>
    match floor.tasks.begin task with
    | (true, tasks) => ((floor.withTasks tasks).move task (.begun job)).write task [.taken]
    | (false, _) => (floor.move task .spent).write task [.taken]
  | _ => floor

/-- Calls the provider of an invocation. -/
def callProvider (floor : Floor) (thread : Thread) (task : Nat) (job : Deferred) : Floor :=
  let (result, world) :=
    floor.session.world.call thread job.dispatcher.provider job.invocation.input
  ((floor.withWorld world).move task (.called job result)).write task
    (.called job.invocation.input :: (world.since floor.session.world).map .heard)

/-- Tells how the provider's call has ended. -/
def tell (floor : Floor) (thread : Thread) (task : Nat) (job : Deferred)
    (result : Except Failure (Option Payload)) : Floor :=
  let (outcome, world) := job.tell thread result floor.session.world
  ((floor.withWorld world).move task (.told outcome)).write task
    ((world.since floor.session.world).map .heard)

/-- Ends the task of an invocation. -/
def finish (floor : Floor) (task : Nat) (outcome : WorkOutcome) : Floor :=
  ((floor.withTasks (floor.tasks.finish task outcome)).move task .spent).write task [.ended outcome]

/-- Goes on with the run of a unit. -/
def advance (floor : Floor) (thread : Thread) (task : Nat) : Floor :=
  match floor.phases[task]? with
  | some (.begun job) => floor.callProvider thread task job
  | some (.called job result) => floor.tell thread task job result
  | some (.told outcome) => floor.finish task outcome
  | _ => floor

/-- Changes what others may change too: the types that are remembered, the executors, and the ids
that are left. -/
def disturb (floor : Floor) (memory : TypeMemory) (registry : ExecutorRegistry) (ids : IdSupply) :
    Floor :=
  { floor with
    session := {
      memory
      workshop := { floor.session.workshop with registry }
      world := { floor.session.world with ids } } }

end Floor

/-- Something that is done on a floor in one step. -/
inductive Action where
  | invoke (call : Call)
  | cancel (task : Nat)
  /-- An executor starts to run the unit of an invocation. -/
  | take (task : Nat)
  /-- The run of a unit goes on, on some thread. -/
  | advance (thread : Thread) (task : Nat)
  /-- Something else happens around the floor. -/
  | disturb (memory : TypeMemory) (registry : ExecutorRegistry) (ids : IdSupply)

namespace Floor

/-- Does one thing. -/
def act (floor : Floor) : Action → Floor
  | .invoke call => floor.invoke call
  | .cancel task => floor.cancel task
  | .take task => floor.take task
  | .advance thread task => floor.advance thread task
  | .disturb memory registry ids => floor.disturb memory registry ids

/-- Does one thing after the other. -/
def after (floor : Floor) (history : List Action) : Floor :=
  history.foldl act floor

@[simp] theorem after_nil (floor : Floor) : floor.after [] = floor := rfl

@[simp] theorem after_cons (floor : Floor) (action : Action) (history : List Action) :
    floor.after (action :: history) = (floor.act action).after history := rfl

theorem after_append (floor : Floor) (first second : List Action) :
    floor.after (first ++ second) = (floor.after first).after second :=
  List.foldl_append

end Floor

end SoapDispatch.Dispatch
