import SoapDispatch.Proofs.Agreement
import SoapDispatch.Proofs.Delivery

/-!
# Panics of supplied code

A provider, an observer and a callback may all panic. A panic inside a unit of work ends the task,
and a panic of a provider whose response the caller waits for is answered by a fault. Nothing stands
between the caller and whoever is told that an invocation could not be prepared, so this is where a
panic gets out, and the only place.
-/

namespace SoapDispatch.Dispatch

open SoapDispatch.Soap

/-! ## Refusals -/

/-- An error that keeps an invocation from being deferred, by the stage at which it is met. -/
inductive Call.Refused (call : Call) (session : Session) : DispatchError → Prop where
  /-- The payload type of the provider is not found out. -/
  | untyped {error : DispatchError}
      (resolution : (session.payloadType call.dispatcher).1 = .error error) :
      Refused call session error
  /-- The input cannot be read out of the message. -/
  | unreadable {error : DispatchError} {type : PayloadType}
      (resolution : (session.payloadType call.dispatcher).1 = .ok type)
      (reading : inputOf? call.dispatcher.endpoint.mode type
        (call.request.message.map (received call.dispatcher.endpoint.mtom)) = .error error) :
      Refused call session error
  /-- There is no executor for the unit. -/
  | unassigned {error : DispatchError} {invocation : Invocation}
      (prepared : (session.prepare call.dispatcher call.request.message).1 = .ok invocation)
      (selection : session.selectExecutor call.dispatcher call.request.context = .error error) :
      Refused call session error

section Deferring

variable {session : Session} {call : Call}

/-- An invocation that cannot be prepared has no payload type or no input. -/
theorem Call.refused_of_invocation {failure : Failure}
    (stopped : call.dispatcher.invocation session.memory call.request.message = .error failure) :
    ∃ error, call.Refused session error ∧ failure = .ofDispatch error := by
  unfold Dispatcher.invocation at stopped
  rcases resolution : (session.memory.resolve call.dispatcher.provider.contract).1 with
    error | type
  · rw [resolution] at stopped
    cases stopped
    exact ⟨error, .untyped resolution, rfl⟩
  · rcases reading : inputOf? call.dispatcher.endpoint.mode type
      (call.request.message.map (received call.dispatcher.endpoint.mtom)) with error | input
    · simp only [resolution, reading] at stopped
      cases stopped
      exact ⟨error, .unreadable resolution reading, rfl⟩
    · simp only [resolution, reading] at stopped
      cases stopped

/-- An invocation is kept from being deferred by an error at one of three stages. -/
theorem Session.admission_eq_error_iff {failure : Failure} :
    session.admission call = .error failure ↔
      ∃ error, call.Refused session error ∧ failure = .ofDispatch error := by
  constructor
  · intro refused
    unfold admission Dispatcher.admission at refused
    rcases prepared : call.dispatcher.invocation session.memory call.request.message with
      stopped | invocation
    · rw [prepared] at refused
      cases refused
      exact Call.refused_of_invocation prepared
    · rcases selection : call.dispatcher.executor session.workshop.registry
        call.request.context with error | executor
      · simp only [prepared, selection] at refused
        cases refused
        have first := congrArg Prod.fst (session.prepare_eq call.dispatcher call.request.message)
        exact ⟨error, .unassigned (first.trans prepared) selection, rfl⟩
      · simp only [prepared, selection] at refused
        cases refused
  · rintro ⟨error, refused, rfl⟩
    unfold admission Dispatcher.admission
    cases refused with
    | untyped resolution =>
      have known : (session.memory.resolve call.dispatcher.provider.contract).1 = .error error :=
        resolution
      simp only [Dispatcher.invocation, known]
    | unreadable resolution reading =>
      have known : (session.memory.resolve call.dispatcher.provider.contract).1 = .ok _ :=
        resolution
      simp only [Dispatcher.invocation, known, reading]
    | unassigned prepared selection =>
      rw [session.prepare_eq] at prepared
      rw [session.selectExecutor_eq] at selection
      simp only at prepared
      simp only [prepared, selection]

/-- A refused invocation gives the panic of whoever is told of it; the tasks and the units stay as
they are. -/
theorem Session.defer_of_panic {failure : Failure} {panic : Panic}
    (panics : call.panicAt (call.failureNotice failure) = some panic)
    (refused : session.admission call = .error failure) :
    session.defer call = (.error panic,
      { session.resolved call.dispatcher with
        world := (call.tellRefusal failure session.world).2 }) := by
  have told : call.tellRefusal failure session.world =
      (some panic, (call.tellRefusal failure session.world).2) :=
    Prod.ext ((call.fst_tellRefusal failure session.world).trans panics) rfl
  have world : (session.resolved call.dispatcher).world = session.world := rfl
  simp only [admission] at refused
  simp only [defer_eq, prepareDeferred_eq, refused, world]
  rw [told]
  rfl

/-! ## Inside a unit -/

/-- How the work of an invocation ends: as the provider's call and the response make it end, or else
with the panic of whoever is told of that. -/
def Call.outcome (call : Call) (invocation : Invocation) (ids : IdSupply) : WorkOutcome :=
  Deferred.endWith (call.panicAt (call.endingOf invocation ids).2) (call.endingOf invocation ids).1

/-- No panic gets out of the work of a unit. -/
theorem Call.fst_perform (invocation : Invocation) (thread : Thread) (task : Nat) (world : World) :
    (Deferred.perform thread ⟨task, call.job invocation⟩ world).1 =
      call.outcome invocation world.ids := by
  have job : (call.job invocation).dispatcher = call.dispatcher := rfl
  have input : (call.job invocation).invocation = invocation := rfl
  simp only [Deferred.perform_eq, fst_tell, World.fst_call, World.ids_call, job, input, outcome,
    endingOf]

/-- A unit whose task waits leaves it with the status of its outcome. -/
theorem Session.status?_ran {thread : Thread} {unit : WorkUnit Deferred}
    (pending : session.workshop.tasks.status? unit.task = some .pending) :
    (session.ran thread unit).workshop.tasks.status? unit.task =
      some (Deferred.perform thread unit session.world).1.status := by
  obtain ⟨answer, running⟩ := TaskTable.begin_of_pending pending
  rw [ran_of_begins (Prod.ext answer rfl)]
  simp [TaskTable.status?_finish_self, running]

/-- The inline executor runs the unit on the calling thread before the task is given. -/
theorem Session.defer_inline {invocation : Invocation}
    (admitted : session.admission call = .ok (invocation, .inline)) :
    session.defer call = (.ok session.workshop.tasks.nextNumber,
      (session.accept call).ran .caller
        ⟨session.workshop.tasks.nextNumber, call.job invocation⟩) :=
  defer_of_admitted admitted

/-- A queueing executor keeps the unit. -/
theorem Session.defer_queued {invocation : Invocation}
    (admitted : session.admission call = .ok (invocation, .queued)) :
    session.defer call = (.ok session.workshop.tasks.nextNumber,
      { session.accept call with
        workshop := { (session.accept call).workshop with
          queue := session.workshop.queue ++
            [⟨session.workshop.tasks.nextNumber, call.job invocation⟩] } }) :=
  defer_of_admitted admitted

/-- The task of an admitted invocation waits. -/
theorem Session.status?_accept :
    (session.accept call).workshop.tasks.status? session.workshop.tasks.nextNumber =
      some .pending :=
  session.workshop.tasks.status?_add_self .pending

end Deferring

/-! ## What the caller gets -/

/-- What becomes of the panics of supplied code when an invocation is deferred. -/
structure Call.Contained (call : Call) (session : Session) : Prop where
  /-- A panic reaches the caller exactly when the invocation is refused and whoever is told of that
  panics. -/
  escapes : ∀ panic, (session.defer call).1 = .error panic ↔ ∃ error, call.Refused session error ∧
    call.panicAt (call.failureNotice (.ofDispatch error)) = some panic
  /-- There is no task and no unit then. -/
  lost : ∀ panic, (session.defer call).1 = .error panic →
    (session.defer call).2.workshop = session.workshop
  /-- In every other case the caller gets the number of a new task. -/
  given : ∀ task, (session.defer call).1 = .ok task → task = session.workshop.tasks.nextNumber
  /-- The task of a refused invocation has failed with the error. -/
  failed : ∀ error task, call.Refused session error → (session.defer call).1 = .ok task →
    (session.defer call).2.workshop.tasks.status? task = some (.failed error.message)
  /-- The inline executor ends the task with the outcome of the work, be it a panic. -/
  inline : ∀ invocation, session.admission call = .ok (invocation, .inline) →
    ∃ task, (session.defer call).1 = .ok task ∧
      (session.defer call).2.workshop.tasks.status? task =
        some (call.outcome invocation session.world.ids).status
  /-- An executor that only queues leaves a task that waits, and calls no supplied code. -/
  queued : ∀ invocation, session.admission call = .ok (invocation, .queued) →
    ∃ task, (session.defer call).1 = .ok task ∧
      (session.defer call).2.workshop.tasks.status? task = some .pending ∧
      (session.defer call).2.workshop.queue =
        session.workshop.queue ++ [⟨task, call.job invocation⟩] ∧
      (session.defer call).2.world = session.world
  /-- Whoever runs the unit of a waiting task finds the task ended with the outcome of the work. -/
  ended : ∀ (invocation : Invocation) (task : Nat) (later : Session) (thread : Thread),
    later.workshop.tasks.status? task = some .pending →
      (later.ran thread ⟨task, call.job invocation⟩).workshop.tasks.status? task =
        some (call.outcome invocation later.world.ids).status

section Containing

variable {session : Session} {call : Call}

/-- A panic reaches the caller from whoever is told of a refusal, and from nowhere else. -/
theorem Session.fst_defer_eq_error_iff {panic : Panic} :
    (session.defer call).1 = .error panic ↔ ∃ error, call.Refused session error ∧
      call.panicAt (call.failureNotice (.ofDispatch error)) = some panic := by
  constructor
  · intro escaped
    rcases prepared : session.admission call with failure | ⟨invocation, executor⟩
    · obtain ⟨error, refused, rfl⟩ := admission_eq_error_iff.1 prepared
      refine ⟨error, refused, ?_⟩
      rcases told : call.panicAt (call.failureNotice (.ofDispatch error)) with _ | other
      · rw [defer_of_silent told prepared] at escaped
        cases escaped
      · rw [defer_of_panic told prepared] at escaped
        exact congrArg some (Except.error.inj escaped)
    · rw [defer_of_admitted prepared] at escaped
      cases escaped
  · rintro ⟨error, refused, panics⟩
    rw [defer_of_panic panics (admission_eq_error_iff.2 ⟨error, refused, rfl⟩)]

/-- A panic that reaches the caller leaves the tasks and the units as they are. -/
theorem Session.workshop_defer_of_error {panic : Panic}
    (escaped : (session.defer call).1 = .error panic) :
    (session.defer call).2.workshop = session.workshop := by
  obtain ⟨error, refused, panics⟩ := fst_defer_eq_error_iff.1 escaped
  rw [defer_of_panic panics (admission_eq_error_iff.2 ⟨error, refused, rfl⟩)]
  rfl

/-- The task that is given is a new one. -/
theorem Session.eq_nextNumber_of_defer {task : Nat} (given : (session.defer call).1 = .ok task) :
    task = session.workshop.tasks.nextNumber := by
  rcases prepared : session.admission call with failure | ⟨invocation, executor⟩
  · rcases told : call.panicAt (call.failureNotice failure) with _ | panic
    · rw [defer_of_silent told prepared] at given
      exact (Except.ok.inj given).symm
    · rw [defer_of_panic told prepared] at given
      cases given
  · rw [defer_of_admitted prepared] at given
    exact (Except.ok.inj given).symm

/-- A refused invocation that gives a task has failed with the error. -/
theorem Call.Refused.status?_defer {error : DispatchError} {task : Nat}
    (refused : call.Refused session error) (given : (session.defer call).1 = .ok task) :
    (session.defer call).2.workshop.tasks.status? task = some (.failed error.message) := by
  have prepared := Session.admission_eq_error_iff.2 ⟨error, refused, rfl⟩
  rcases told : call.panicAt (call.failureNotice (.ofDispatch error)) with _ | panic
  · cases Session.eq_nextNumber_of_defer given
    rw [Session.defer_of_silent told prepared]
    exact session.workshop.tasks.status?_add_self _
  · rw [Session.defer_of_panic told prepared] at given
    cases given

/-- A unit of an invocation that is run while its task waits ends the task with the outcome. -/
theorem Call.status?_ran {invocation : Invocation} {task : Nat} {thread : Thread}
    (pending : session.workshop.tasks.status? task = some .pending) :
    (session.ran thread ⟨task, call.job invocation⟩).workshop.tasks.status? task =
      some (call.outcome invocation session.world.ids).status := by
  rw [← call.fst_perform invocation thread task session.world]
  exact Session.status?_ran pending

end Containing

/-- A deferred invocation contains every panic but that of whoever is told of a refusal. -/
theorem Call.contained (call : Call) (session : Session) : call.Contained session where
  escapes panic := Session.fst_defer_eq_error_iff
  lost panic escaped := Session.workshop_defer_of_error escaped
  given task := Session.eq_nextNumber_of_defer
  failed error task refused given := refused.status?_defer given
  inline invocation admitted := by
    rw [Session.defer_inline admitted]
    exact ⟨_, rfl, Call.status?_ran Session.status?_accept⟩
  queued invocation admitted := by
    rw [Session.defer_queued admitted]
    exact ⟨_, rfl, @Session.status?_accept session call, rfl, rfl⟩
  ended invocation task later thread := Call.status?_ran

/-- Panics of supplied code are contained but for one place. An invocation with a response for the
caller answers a panic of the provider by a fault, and calls neither an observer nor a callback. A
deferred invocation gives a task, whatever panics inside its unit; only a panic of whoever is told
that the invocation is refused reaches the caller. -/
theorem Session.panics_contained (session : Session) :
    (∀ (dispatcher : Dispatcher) (request : Request),
      (∀ invocation panic, (session.prepare dispatcher request.message).1 = .ok invocation →
        (dispatcher.provider.reply invocation.input).outcome = .panic panic →
          (session.invoke dispatcher request).1 =
            (Responder.ofRequest dispatcher.endpoint request.message).respondFailure
              (.ofPanic panic)) ∧
      ∀ event ∈ (session.invoke dispatcher request).2.world.since session.world,
        ∃ input, event = .handled input) ∧
    ∀ call : Call, call.Contained session := by
  constructor
  · intro dispatcher request
    constructor
    · intro invocation panic prepared panics
      rw [session.fst_invoke, prepared]
      simp only [Responder.verdict, Provider.result, panics]
      rfl
    · intro event heard
      rw [session.since_invoke] at heard
      split at heard
      · cases heard
      · next invocation _ =>
        obtain ⟨input, _, same⟩ := Option.map_eq_some_iff.1 (Option.mem_toList.1 heard)
        exact ⟨input, same.symm⟩
  · intro call
    exact call.contained session

/-- A provider that panics before an observer that panics at it: the caller gets a fault in one way,
and in the other a task that has failed by the last of the panics. -/
theorem Session.panics_contained_panicking :
    let provider : Provider := .dynamic (.declared "Boom" PayloadType.text.declarationName)
      fun _ => .panic (.text "index out of range")
    let dispatcher : Dispatcher :=
      { provider, endpoint := { operation := "Boom" }, onCallingThread := true
        observer := .listener fun _ _ => some (.text "observer panicked") }
    let session : Session := { world := { ids := ⟨toString, 0⟩ } }
    let invocation : Invocation := ⟨.text, none⟩
    let call : Call := ⟨dispatcher, {}, .oneWay⟩
    (session.prepare dispatcher none).1 = .ok invocation ∧
      (provider.reply none).outcome = .panic (.text "index out of range") ∧
      (session.invoke dispatcher {}).1 =
        (Responder.ofRequest dispatcher.endpoint none).respondFailure
          (.ofPanic (.text "index out of range")) ∧
      session.admission call = .ok (invocation, .inline) ∧
      ∃ task, (session.defer call).1 = .ok task ∧
        (session.defer call).2.workshop.tasks.status? task =
          some (.failed "observer panicked") := by
  intro provider dispatcher session invocation call
  have contained := session.panics_contained
  have prepared : (session.prepare dispatcher none).1 = .ok invocation := rfl
  have admitted : session.admission call = .ok (invocation, .inline) := rfl
  exact ⟨prepared, rfl, (contained.1 dispatcher {}).1 invocation _ prepared rfl, admitted,
    (contained.2 call).inline invocation admitted⟩

/-- Deferred invocations do not contain every panic: the provider of these declares no payload type,
and whoever is told of that panics. -/
theorem Session.not_panics_contained :
    (¬∀ (session : Session) (dispatcher : Dispatcher) (request : Request),
      ∃ task, (session.invokeOneWay dispatcher request).1 = .ok task) ∧
    ¬∀ (session : Session) (dispatcher : Dispatcher) (request : Request) (callback : Callback),
      ∃ task, (session.invokeAsync dispatcher request callback).1 = .ok task := by
  let session : Session := { world := { ids := ⟨toString, 0⟩ } }
  let dispatcher : Dispatcher :=
    { provider := .dynamic ⟨"Plain", []⟩ .value, endpoint := { operation := "op" }
      observer := .listener fun _ _ => some (.text "observer panicked") }
  let callback : Callback :=
    { onSuccess := fun _ _ => none, onFailure := fun _ _ => some (.text "callback panicked") }
  constructor
  · intro contained
    obtain ⟨task, given⟩ := contained session dispatcher {}
    have escaped : (session.invokeOneWay dispatcher {}).1 = .error (.text "observer panicked") := rfl
    cases escaped.symm.trans given
  · intro contained
    obtain ⟨task, given⟩ := contained session dispatcher {} callback
    have escaped : (session.invokeAsync dispatcher {} callback).1 =
        .error (.text "callback panicked") := rfl
    cases escaped.symm.trans given

end SoapDispatch.Dispatch
