import SoapDispatch.Dispatch.Input
import SoapDispatch.Dispatch.Response
import SoapDispatch.InvocationContext
import SoapDispatch.Provider
import SoapDispatch.Workshop

/-!
# Sessions

Invocations of providers through dispatchers. An invocation finds out the provider's payload type,
reads the input out of the message, calls the provider and answers. It is made in one of three ways:
with a response for the caller, with none at all, or with a response for a callback. The last two
are deferred: what is left to do once the input is known becomes a unit of work.

Dispatchers share a session: the memory of payload types, the workshop that deferred work goes to,
the supply of content ids, and the record of everything that supplied code was told.
-/

namespace SoapDispatch.Dispatch

open SoapDispatch.Soap

/-! ## Supplied code -/

/-- Who is told of failures that have no one else to be told to. -/
inductive Observer where
  /-- Nobody. -/
  | nobody
  /-- Code that is told the operation and the failure, and may panic at them. -/
  | listener (react : String → Failure → Option Panic)

/-- Who is told how an asynchronous invocation has ended. Either reaction may be a panic. -/
structure Callback where
  onSuccess : Option Payload → Envelope → Option Panic
  onFailure : RootCause → Envelope → Option Panic

/-- Something that supplied code was told. -/
inductive Event where
  /-- A handler was called. -/
  | handled (input : Option Payload)
  /-- An observer was told of a failure. -/
  | discarded (operation : String) (failure : Failure)
  /-- A callback was told of a success. -/
  | succeeded (value : Option Payload) (response : Envelope)
  /-- A callback was told of a failure. -/
  | failed (root : RootCause) (response : Envelope)

/-- An event with the thread it happened on. -/
structure Record where
  thread : Thread
  event : Event

/-- What calls of supplied code leave behind: their record, and the ids that are left. -/
structure World where
  ids : IdSupply
  records : List Record := []

namespace World

/-- Records an event. -/
def note (world : World) (thread : Thread) (event : Event) : World :=
  { world with records := world.records ++ [{ thread, event }] }

/-- Calls a provider; an error chain and a panic both end in a failure. -/
def call (world : World) (thread : Thread) (provider : Provider) (input : Option Payload) :
    Except Failure (Option Payload) × World :=
  let reply := provider.reply input
  let world := reply.handled.elim world fun input => world.note thread (.handled input)
  match reply.outcome with
  | .value value => (.ok value, world)
  | .failure chain => (.error (.capture chain), world)
  | .panic cause => (.error (.ofPanic cause), world)

/-- Tells an observer of a failure; gives its panic, if it panics. -/
def discard (world : World) (thread : Thread) (observer : Observer) (operation : String)
    (failure : Failure) : Option Panic × World :=
  match observer with
  | .nobody => (none, world)
  | .listener react => (react operation failure, world.note thread (.discarded operation failure))

/-- Tells a callback of a success; gives its panic, if it panics. -/
def succeed (world : World) (thread : Thread) (callback : Callback) (value : Option Payload)
    (response : Envelope) : Option Panic × World :=
  (callback.onSuccess value response, world.note thread (.succeeded value response))

/-- Tells a callback of a failure; gives its panic, if it panics. -/
def fail (world : World) (thread : Thread) (callback : Callback) (root : RootCause)
    (response : Envelope) : Option Panic × World :=
  (callback.onFailure root response, world.note thread (.failed root response))

end World

/-! ## Dispatchers -/

/-- What dispatches the messages of one endpoint to one provider. -/
structure Dispatcher where
  provider : Provider
  endpoint : Endpoint
  observer : Observer := .nobody
  /-- Whether deferred invocations run on the calling thread unless their context says otherwise. -/
  onCallingThread : Bool := false

/-- A received message, if there is one, and the context it came in. -/
structure Request where
  message : Option Envelope := none
  context : InvocationContext := {}

/-- What is left to do of an invocation once its input is known. -/
structure Invocation where
  type : PayloadType
  input : Option Payload

/-- Who is told how a deferred invocation has ended. -/
inductive Recipient where
  /-- The observer, of a failure only. -/
  | observer
  /-- A callback, with a response. -/
  | callback (callback : Callback) (responder : Responder)

/-- A deferred invocation. -/
structure Deferred where
  dispatcher : Dispatcher
  invocation : Invocation
  recipient : Recipient

namespace Deferred

/-- Ends work with the failure it has met, unless telling of it panicked. -/
def endWith (panic : Option Panic) (otherwise : WorkOutcome) : WorkOutcome :=
  panic.elim otherwise .panic

/-- Tells a callback of the failure of an invocation. -/
def failTo (thread : Thread) (callback : Callback) (responder : Responder) (failure : Failure)
    (world : World) : WorkOutcome × World :=
  let (panic, world) := world.fail thread callback failure.root (responder.respondFailure failure)
  (endWith panic (.failure failure), world)

/-- Tells a callback how the provider's call has ended. -/
def answerTo (thread : Thread) (callback : Callback) (responder : Responder) (type : PayloadType)
    (result : Except Failure (Option Payload)) (world : World) : WorkOutcome × World :=
  match result with
  | .error failure => failTo thread callback responder failure world
  | .ok value =>
    match responder.respondValue type value world.ids with
    | .error failure => failTo thread callback responder failure world
    | .ok (response, ids) =>
      let (panic, world) := { world with ids }.succeed thread callback value response
      (endWith panic .success, world)

/-- Tells an observer how the provider's call has ended, if it has ended in a failure. -/
def reportTo (thread : Thread) (observer : Observer) (operation : String)
    (result : Except Failure (Option Payload)) (world : World) : WorkOutcome × World :=
  match result with
  | .ok _ => (.success, world)
  | .error failure =>
    let (panic, world) := world.discard thread observer operation failure
    (endWith panic (.failure failure), world)

/-- Does what is left of a deferred invocation. -/
def perform (thread : Thread) (unit : WorkUnit Deferred) (world : World) : WorkOutcome × World :=
  let { dispatcher, invocation, recipient } := unit.job
  let (result, world) := world.call thread dispatcher.provider invocation.input
  match recipient with
  | .observer =>
    reportTo thread dispatcher.observer dispatcher.endpoint.operation result world
  | .callback callback responder =>
    answerTo thread callback responder invocation.type result world

end Deferred

/-! ## Sessions -/

/-- What the dispatchers of a session share. -/
structure Session where
  memory : TypeMemory := []
  workshop : Workshop Deferred := {}
  world : World

namespace Session

/-- Resolves the payload type of a dispatcher's provider. -/
def payloadType (session : Session) (dispatcher : Dispatcher) :
    Except DispatchError PayloadType × Session :=
  let (result, memory) := session.memory.resolve dispatcher.provider.contract
  (result, { session with memory })

/-- Finds out the payload type and reads the input out of the message. -/
def prepare (session : Session) (dispatcher : Dispatcher) (message : Option Envelope) :
    Except Failure Invocation × Session :=
  match session.payloadType dispatcher with
  | (.error error, session) => (.error (.ofDispatch error), session)
  | (.ok type, session) =>
    let { mode, .. } := dispatcher.endpoint
    match inputOf? mode type (message.map (received dispatcher.endpoint.mtom)) with
    | .error error => (.error (.ofDispatch error), session)
    | .ok input => (.ok { type, input }, session)

/-- The executor for a deferred invocation. -/
def selectExecutor (session : Session) (dispatcher : Dispatcher) (context : InvocationContext) :
    Except DispatchError Executor :=
  if context.disableThreadSwitch?.getD dispatcher.onCallingThread then .ok .inline
  else session.workshop.registry.require serverRole

/-- Prepares a deferred invocation and selects its executor. -/
def prepareDeferred (session : Session) (dispatcher : Dispatcher) (request : Request) :
    Except Failure (Invocation × Executor) × Session :=
  match session.prepare dispatcher request.message with
  | (.error failure, session) => (.error failure, session)
  | (.ok invocation, session) =>
    match session.selectExecutor dispatcher request.context with
    | .error error => (.error (.ofDispatch error), session)
    | .ok executor => (.ok (invocation, executor), session)

/-- Calls the provider of a prepared invocation on the calling thread. -/
def callPrepared (session : Session) (dispatcher : Dispatcher)
    (prepared : Except Failure Invocation) :
    Except Failure (PayloadType × Option Payload) × Session :=
  match prepared with
  | .error failure => (.error failure, session)
  | .ok invocation =>
    let (result, world) := session.world.call .caller dispatcher.provider invocation.input
    (result.map fun value => (invocation.type, value), { session with world })

/-- Invokes a provider and gives the response. Every failure is answered by a fault. -/
def invoke (session : Session) (dispatcher : Dispatcher) (request : Request) :
    Envelope × Session :=
  let responder := Responder.ofRequest dispatcher.endpoint request.message
  let (prepared, session) := session.prepare dispatcher request.message
  let (outcome, session) := session.callPrepared dispatcher prepared
  let (response, ids) := responder.answer outcome session.world.ids
  (response, { session with world := { session.world with ids } })

/-- Hands a deferred invocation to its executor; gives the number of its task. -/
def submit (session : Session) (executor : Executor) (job : Deferred) : Nat × Session :=
  let (task, workshop) := session.workshop.addTask .pending
  let (workshop, world) :=
    workshop.submit Deferred.perform executor { task, job } session.world
  (task, { session with workshop, world })

/-- Ends a deferred invocation that could not be prepared, after someone has been told of it: a
panic of theirs reaches the caller, and otherwise there is a task that has failed. -/
def giveUp (session : Session) (failure : Failure) (told : Option Panic × World) :
    Except Panic Nat × Session :=
  match told with
  | (some panic, world) => (.error panic, { session with world })
  | (none, world) =>
    let (task, workshop) := session.workshop.addTask (.failed failure.message)
    (.ok task, { session with workshop, world })

/-- Invokes a provider without a response. Gives the number of the task, unless a panic of the
observer reaches the caller. -/
def invokeOneWay (session : Session) (dispatcher : Dispatcher) (request : Request) :
    Except Panic Nat × Session :=
  match session.prepareDeferred dispatcher request with
  | (.error failure, session) =>
    session.giveUp failure <|
      session.world.discard .caller dispatcher.observer dispatcher.endpoint.operation failure
  | (.ok (invocation, executor), session) =>
    let (task, session) :=
      session.submit executor { dispatcher, invocation, recipient := .observer }
    (.ok task, session)

/-- Invokes a provider with a response for a callback. Gives the number of the task, unless a panic
of the callback reaches the caller. -/
def invokeAsync (session : Session) (dispatcher : Dispatcher) (request : Request)
    (callback : Callback) : Except Panic Nat × Session :=
  let responder := Responder.ofRequest dispatcher.endpoint request.message
  match session.prepareDeferred dispatcher request with
  | (.error failure, session) =>
    session.giveUp failure <|
      session.world.fail .caller callback failure.root (responder.respondFailure failure)
  | (.ok (invocation, executor), session) =>
    let (task, session) := session.submit executor
      { dispatcher, invocation, recipient := .callback callback responder }
    (.ok task, session)

/-- Cancels a task; tells whether it was still waiting. -/
def cancel (session : Session) (task : Nat) : Bool × Session :=
  let (cancelled, workshop) := session.workshop.cancel task
  (cancelled, { session with workshop })

/-- Runs the unit that has waited longest; tells whether there was one. -/
def runNext (session : Session) : Bool × Session :=
  match session.workshop.runNext Deferred.perform session.world with
  | some (workshop, world) => (true, { session with workshop, world })
  | none => (false, session)

/-- Registers an executor for a role. -/
def register (session : Session) (role : String) (executor : Executor) : Session :=
  { session with workshop := session.workshop.register role executor }

end Session

end SoapDispatch.Dispatch
