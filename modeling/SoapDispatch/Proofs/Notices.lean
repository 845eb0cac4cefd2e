import SoapDispatch.Proofs.History

/-!
# Notices

What supplied code is told in each step of a deferred invocation, and how the invocation ends by it.
A notice is an event other than the call of a handler: an observer is told of a failure, or a
callback of a success or a failure.
-/

namespace SoapDispatch

open SoapDispatch.Soap

/-! ## Providers -/

namespace Provider

/-- The result of calling a provider: an error chain and a panic are both failures. -/
def result (provider : Provider) (input : Option Payload) : Except Failure (Option Payload) :=
  match (provider.reply input).outcome with
  | .value value => .ok value
  | .failure chain => .error (.capture chain)
  | .panic cause => .error (.ofPanic cause)

/-- Only a value that is returned is no failure. -/
theorem result_eq_ok_iff {provider : Provider} {input value : Option Payload} :
    provider.result input = .ok value ↔ (provider.reply input).outcome = .value value := by
  unfold result
  cases (provider.reply input).outcome <;> simp

/-- What the handler of a provider is told when the provider is called. -/
def handling (provider : Provider) (input : Option Payload) : List Dispatch.Event :=
  ((provider.reply input).handled.map Dispatch.Event.handled).toList

end Provider

namespace Dispatch

/-! ## What is told -/

/-- What an observer notices of an event: everything, unless there is nobody to notice it. -/
def Observer.hears (observer : Observer) (event : Event) : List Event :=
  match observer with
  | .nobody => []
  | .listener _ => [event]

/-- What an observer panics with at a failure, if it panics. -/
def Observer.reaction (observer : Observer) (operation : String) (failure : Failure) :
    Option Panic :=
  match observer with
  | .nobody => none
  | .listener react => react operation failure

/-- An observer that never panics. -/
def Observer.Quiet : Observer → Prop
  | .nobody => True
  | .listener react => ∀ operation failure, react operation failure = none

/-- A callback that never panics. -/
structure Callback.Quiet (callback : Callback) : Prop where
  onSuccess : ∀ value response, callback.onSuccess value response = none
  onFailure : ∀ root response, callback.onFailure root response = none

namespace World

variable (world : World) (thread : Thread)

@[simp] theorem since_self : world.since world = [] := by
  simp [since]

@[simp] theorem since_note (event : Event) : (world.note thread event).since world = [event] := by
  simp [since, note]

/-- Drawing ids tells nobody anything. -/
@[simp] theorem since_note_withIds (ids : IdSupply) (event : Event) :
    (({ world with ids } : World).note thread event).since world = [event] :=
  world.since_note thread event

/-- A call gives the provider's result and tells its handler of the input, if it gets that far. -/
theorem call_eq (provider : Provider) (input : Option Payload) :
    world.call thread provider input =
      (provider.result input,
        (provider.reply input).handled.elim world fun input =>
          world.note thread (.handled input)) := by
  simp only [call, Provider.result]
  cases (provider.reply input).outcome <;> rfl

@[simp] theorem fst_call (provider : Provider) (input : Option Payload) :
    (world.call thread provider input).1 = provider.result input := by
  rw [call_eq]

@[simp] theorem since_call (provider : Provider) (input : Option Payload) :
    (world.call thread provider input).2.since world = provider.handling input := by
  rw [call_eq, Provider.handling]
  cases (provider.reply input).handled <;> simp

/-- A call of a provider draws no id. -/
@[simp] theorem ids_call (provider : Provider) (input : Option Payload) :
    (world.call thread provider input).2.ids = world.ids := by
  rw [call_eq]
  cases (provider.reply input).handled <;> rfl

/-- An observer is told of a failure once. -/
@[simp] theorem since_discard (observer : Observer) (operation : String) (failure : Failure) :
    (world.discard thread observer operation failure).2.since world =
      observer.hears (.discarded operation failure) := by
  cases observer <;> simp [discard, Observer.hears]

/-- Telling an observer gives its panic. -/
@[simp] theorem fst_discard (observer : Observer) (operation : String) (failure : Failure) :
    (world.discard thread observer operation failure).1 = observer.reaction operation failure := by
  cases observer <;> rfl

end World

namespace Call

variable (call : Call)

/-- Neither the observer nor the callback ever panics. -/
def Quiet : Prop :=
  call.dispatcher.observer.Quiet ∧
    match call.discipline with
    | .oneWay => True
    | .async callback => callback.Quiet

/-- What whoever is told of an event panics with, if they panic. -/
def reaction (event : Event) : Option Panic :=
  match call.discipline, event with
  | .oneWay, .discarded operation failure => call.dispatcher.observer.reaction operation failure
  | .async callback, .succeeded value response => callback.onSuccess value response
  | .async callback, .failed root response => callback.onFailure root response
  | _, _ => none

/-- The first panic that telling of some events leads to, if there is one. -/
def panicAt (events : List Event) : Option Panic :=
  events.findSome? call.reaction

/-- What is told of a failure of the invocation. -/
def failureNotice (failure : Failure) : List Event :=
  match call.discipline with
  | .oneWay =>
    call.dispatcher.observer.hears (.discarded call.dispatcher.endpoint.operation failure)
  | .async _ => [.failed failure.root (call.responder.respondFailure failure)]

/-- How the work of the invocation ends after the provider's call, and what is told of it. A
response that cannot be built is a failure like one of the provider. -/
def ending (type : PayloadType) (ids : IdSupply) :
    Except Failure (Option Payload) → WorkOutcome × List Event
  | .error failure => (.failure failure, call.failureNotice failure)
  | .ok value =>
    match call.discipline with
    | .oneWay => (.success, [])
    | .async _ =>
      match call.responder.respondValue type value ids with
      | .error failure => (.failure failure, call.failureNotice failure)
      | .ok (response, _) => (.success, [.succeeded value response])

variable {call}

/-- Where nobody panics, no event leads to a panic. -/
theorem Quiet.panicAt (quiet : call.Quiet) (events : List Event) : call.panicAt events = none := by
  refine List.findSome?_eq_none_iff.2 fun event _ => ?_
  obtain ⟨⟨provider, endpoint, observer, switch⟩, request, _ | callback⟩ := call
  · cases event with
    | discarded operation failure =>
      cases observer with
      | nobody => rfl
      | listener react => exact quiet.1 operation failure
    | _ => rfl
  · cases event with
    | succeeded value response => exact quiet.2.onSuccess value response
    | failed root response => exact quiet.2.onFailure root response
    | _ => rfl

/-- At a failure it is the observer or the callback who may panic. -/
theorem panicAt_failureNotice (failure : Failure) : call.panicAt (call.failureNotice failure) =
    match call.discipline with
    | .oneWay => call.dispatcher.observer.reaction call.dispatcher.endpoint.operation failure
    | .async callback => callback.onFailure failure.root (call.responder.respondFailure failure) := by
  obtain ⟨⟨provider, endpoint, observer, switch⟩, request, _ | callback⟩ := call
  · cases observer with
    | nobody => rfl
    | listener react => simp [panicAt, failureNotice, Observer.hears, reaction]
  · simp [panicAt, failureNotice, reaction]

/-- Telling of a refusal gives the panic of whoever is told. -/
theorem fst_tellRefusal (failure : Failure) (world : World) :
    (call.tellRefusal failure world).1 = call.panicAt (call.failureNotice failure) := by
  rw [panicAt_failureNotice]
  obtain ⟨dispatcher, request, _ | callback⟩ := call
  · exact world.fst_discard _ _ _ _
  · rfl

/-- Where nobody panics, telling of a refusal leads back to the caller. -/
theorem Quiet.fst_tellRefusal (quiet : call.Quiet) (failure : Failure) (world : World) :
    (call.tellRefusal failure world).1 = none := by
  rw [Call.fst_tellRefusal, quiet.panicAt]

/-- A refusal is told of by one notice. -/
theorem since_tellRefusal (failure : Failure) (world : World) :
    (call.tellRefusal failure world).2.since world = call.failureNotice failure := by
  obtain ⟨dispatcher, request, _ | callback⟩ := call <;>
    simp [tellRefusal, failureNotice, World.fail]

/-- Telling tells how the work ends. -/
theorem since_tell (thread : Thread) (invocation : Invocation)
    (result : Except Failure (Option Payload)) (world : World) :
    ((call.job invocation).tell thread result world).2.since world =
      (call.ending invocation.type world.ids result).2 := by
  obtain ⟨dispatcher, request, _ | callback⟩ := call
  · cases result <;> simp [Deferred.tell, job, recipient, Deferred.reportTo, ending, failureNotice]
  · cases result with
    | error failure =>
      simp [Deferred.tell, job, recipient, Deferred.answerTo, Deferred.failTo, ending,
        failureNotice, World.fail, responder]
    | ok value =>
      simp only [Deferred.tell, job, recipient, Deferred.answerTo, ending]
      rcases Responder.respondValue (responder _) invocation.type value world.ids with
        failure | ⟨response, ids⟩
      · simp [Deferred.failTo, failureNotice, World.fail, responder]
      · simp [World.succeed]

/-- The work ends as the provider's call and the response make it end, unless whoever is told of it
panics. -/
theorem fst_tell (thread : Thread) (invocation : Invocation)
    (result : Except Failure (Option Payload)) (world : World) :
    ((call.job invocation).tell thread result world).1 =
      Deferred.endWith (call.panicAt (call.ending invocation.type world.ids result).2)
        (call.ending invocation.type world.ids result).1 := by
  have notice (failure : Failure) := call.panicAt_failureNotice failure
  obtain ⟨dispatcher, request, _ | callback⟩ := call
  · cases result with
    | ok value => rfl
    | error failure =>
      simp [Deferred.tell, job, recipient, Deferred.reportTo, ending, notice]
  · cases result with
    | error failure =>
      simp [Deferred.tell, job, recipient, Deferred.answerTo, Deferred.failTo, ending, notice,
        World.fail, responder]
    | ok value =>
      simp only [Deferred.tell, job, recipient, Deferred.answerTo, ending]
      rcases Responder.respondValue (responder _) invocation.type value world.ids with
        failure | ⟨response, ids⟩
      · simp [Deferred.failTo, notice, World.fail, responder]
      · simp [World.succeed, panicAt, reaction]

/-- Where nobody panics, the work ends as the provider's call and the response make it end. -/
theorem Quiet.fst_tell (quiet : call.Quiet) (thread : Thread) (invocation : Invocation)
    (result : Except Failure (Option Payload)) (world : World) :
    ((call.job invocation).tell thread result world).1 =
      (call.ending invocation.type world.ids result).1 := by
  rw [Call.fst_tell, quiet.panicAt]
  rfl

end Call

end Dispatch

end SoapDispatch
