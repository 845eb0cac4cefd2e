import SoapDispatch.Dispatch.Session

/-!
# Preparing and running

Preparing an invocation only looks at what is remembered of payload types, and a deferred one at the
executors too. Nothing but the memory changes. Running a unit of a session changes the status of its
task and the world.
-/

namespace SoapDispatch.Dispatch

open SoapDispatch.Soap

namespace Dispatcher

variable (dispatcher : Dispatcher) (memory : TypeMemory) (registry : ExecutorRegistry)

/-- The invocation that a message makes. -/
def invocation (message : Option Envelope) : Except Failure Invocation :=
  match (memory.resolve dispatcher.provider.contract).1 with
  | .error error => .error (.ofDispatch error)
  | .ok type =>
    match inputOf? dispatcher.endpoint.mode type
      (message.map (received dispatcher.endpoint.mtom)) with
    | .error error => .error (.ofDispatch error)
    | .ok input => .ok { type, input }

/-- The executor for a deferred invocation. -/
def executor (context : InvocationContext) : Except DispatchError Executor :=
  if context.disableThreadSwitch?.getD dispatcher.onCallingThread then .ok .inline
  else registry.require serverRole

/-- The deferred invocation that a request makes, with its executor. -/
def admission (request : Request) : Except Failure (Invocation × Executor) :=
  match dispatcher.invocation memory request.message with
  | .error failure => .error failure
  | .ok invocation =>
    match dispatcher.executor registry request.context with
    | .error error => .error (.ofDispatch error)
    | .ok executor => .ok (invocation, executor)

variable {dispatcher memory registry}

/-- An invocation that a message makes has the type that is found out, and the input that the
message is read as. -/
theorem invocation_eq_ok_iff {message : Option Envelope} {invocation : Invocation} :
    dispatcher.invocation memory message = .ok invocation ↔
      (memory.resolve dispatcher.provider.contract).1 = .ok invocation.type ∧
        inputOf? dispatcher.endpoint.mode invocation.type
          (message.map (received dispatcher.endpoint.mtom)) = .ok invocation.input := by
  constructor
  · intro prepared
    unfold Dispatcher.invocation at prepared
    rcases found : (memory.resolve dispatcher.provider.contract).1 with error | type
    · rw [found] at prepared
      cases prepared
    · rcases read : inputOf? dispatcher.endpoint.mode type
        (message.map (received dispatcher.endpoint.mtom)) with error | input
      · simp only [found, read] at prepared
        cases prepared
      · simp only [found, read] at prepared
        cases prepared
        exact ⟨rfl, read⟩
  · rintro ⟨found, read⟩
    simp only [Dispatcher.invocation, found, read]

/-- An admitted invocation is the one that the message makes. -/
theorem invocation_of_admission {request : Request} {invocation : Invocation} {executor : Executor}
    (admitted : dispatcher.admission memory registry request = .ok (invocation, executor)) :
    dispatcher.invocation memory request.message = .ok invocation := by
  unfold admission at admitted
  rcases prepared : dispatcher.invocation memory request.message with failure | other
  · rw [prepared] at admitted
    cases admitted
  · rcases selected : dispatcher.executor registry request.context with error | chosen
    · simp only [prepared, selected] at admitted
      cases admitted
    · simp only [prepared, selected] at admitted
      cases admitted
      rfl

end Dispatcher

namespace Session

variable (session : Session) (dispatcher : Dispatcher)

/-- The session once the payload type of a dispatcher's provider has been found out. -/
def resolved : Session :=
  { session with memory := (session.memory.resolve dispatcher.provider.contract).2 }

/-- Preparing an invocation reads the message and remembers the payload type. -/
theorem prepare_eq (message : Option Envelope) : session.prepare dispatcher message =
    (dispatcher.invocation session.memory message, session.resolved dispatcher) := by
  unfold prepare payloadType resolved Dispatcher.invocation
  rcases session.memory.resolve dispatcher.provider.contract with ⟨error | type, memory⟩
  · rfl
  · simp only []
    cases inputOf? dispatcher.endpoint.mode type
      (message.map (received dispatcher.endpoint.mtom)) <;> rfl

/-- The executor is selected among those registered. -/
theorem selectExecutor_eq (context : InvocationContext) :
    session.selectExecutor dispatcher context =
      dispatcher.executor session.workshop.registry context := rfl

/-- Preparing a deferred invocation prepares it and selects its executor. -/
theorem prepareDeferred_eq (request : Request) : session.prepareDeferred dispatcher request =
    (dispatcher.admission session.memory session.workshop.registry request,
      session.resolved dispatcher) := by
  simp only [prepareDeferred, prepare_eq, Dispatcher.admission, selectExecutor_eq]
  rcases dispatcher.invocation session.memory request.message with failure | invocation
  · rfl
  · have same : (session.resolved dispatcher).workshop = session.workshop := rfl
    simp only [same]
    cases dispatcher.executor session.workshop.registry request.context <;> rfl

/-! ## Runs -/

/-- The session after a unit has been run. -/
def ran (session : Session) (thread : Thread) (unit : WorkUnit Deferred) : Session :=
  let (workshop, world) := session.workshop.run Deferred.perform thread unit session.world
  { session with workshop, world }

variable {session} {thread : Thread} {unit : WorkUnit Deferred} {tasks : TaskTable}

/-- A unit whose task does not begin leaves the session as it is. -/
theorem ran_of_stays (stays : session.workshop.tasks.begin unit.task = (false, tasks)) :
    session.ran thread unit = session := by
  simp only [ran, Workshop.run, stays]

/-- A unit whose task begins does its work and ends the task. -/
theorem ran_of_begins (begins : session.workshop.tasks.begin unit.task = (true, tasks)) :
    session.ran thread unit =
      let (outcome, world) := Deferred.perform thread unit session.world
      { session with
        workshop := { session.workshop with tasks := tasks.finish unit.task outcome }
        world } := by
  simp only [ran, Workshop.run, begins]

/-- The world after a unit whose task begins is the one that its work leads to. -/
theorem world_ran (begins : (session.workshop.tasks.begin unit.task).1 = true) :
    (session.ran thread unit).world = (Deferred.perform thread unit session.world).2 := by
  rw [ran_of_begins (Prod.ext begins rfl)]

/-- Where no unit waits, none is run. -/
theorem snd_runNext_of_nil (queue : session.workshop.queue = []) : session.runNext.2 = session := by
  simp only [runNext, Workshop.runNext, queue]

/-- The unit that has waited longest is run and waits no more. -/
theorem snd_runNext_of_cons {unit : WorkUnit Deferred} {rest : List (WorkUnit Deferred)}
    (queue : session.workshop.queue = unit :: rest) : session.runNext.2 =
      ({ session with workshop := { session.workshop with queue := rest } } : Session).ran
        .caller unit := by
  simp only [runNext, Workshop.runNext, queue]
  rfl

end Session

end SoapDispatch.Dispatch
