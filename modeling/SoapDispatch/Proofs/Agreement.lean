import SoapDispatch.Proofs.Records

/-!
# Agreement of the disciplines

An invocation with a response for the caller and one with a response for a callback are written
separately, and they come to the same. Both are decided by one verdict: the value with the response
that carries it, or the first failure that is met, be it of the preparation, of the provider or of
building the response.
-/

namespace SoapDispatch.Dispatch

open SoapDispatch.Soap

/-! ## Verdicts -/

/-- How an invocation ends: with a value and the response that carries it, or with a failure. -/
abbrev Verdict := Except Failure (Option Payload × Envelope)

/-- The response that an event hands over. -/
def Event.response? : Event → Option Envelope
  | .succeeded _ response => some response
  | .failed _ response => some response
  | _ => none

namespace Responder

variable (responder : Responder)

/-- The verdict on an invocation of a provider. -/
def verdict (provider : Provider) (ids : IdSupply) : Except Failure Invocation → Verdict
  | .error failure => .error failure
  | .ok invocation =>
    match provider.result invocation.input with
    | .error failure => .error failure
    | .ok value =>
      match responder.respondValue invocation.type value ids with
      | .error failure => .error failure
      | .ok (response, _) => .ok (value, response)

/-- The response that a verdict leads to. -/
def response : Verdict → Envelope
  | .ok (_, response) => response
  | .error failure => responder.respondFailure failure

/-- What a callback is told of a verdict. -/
def notice : Verdict → Event
  | .ok (value, response) => .succeeded value response
  | .error failure => .failed failure.root (responder.respondFailure failure)

/-- A callback is handed the response that the verdict leads to. -/
@[simp] theorem response?_notice (verdict : Verdict) :
    (responder.notice verdict).response? = some (responder.response verdict) := by
  rcases verdict with failure | ⟨value, response⟩ <;> rfl

variable {responder}

/-- A callback is told of a success when the verdict is one. -/
theorem notice_eq_succeeded_iff {verdict : Verdict} {value : Option Payload}
    {response : Envelope} :
    responder.notice verdict = .succeeded value response ↔ verdict = .ok (value, response) := by
  rcases verdict with failure | ⟨known, answer⟩ <;> simp [notice]

/-- An invocation succeeds when it is prepared, the provider returns a value, and the response that
carries it can be built. -/
theorem verdict_eq_ok_iff {provider : Provider} {ids : IdSupply}
    {prepared : Except Failure Invocation} {value : Option Payload} {response : Envelope} :
    responder.verdict provider ids prepared = .ok (value, response) ↔
      ∃ invocation left, prepared = .ok invocation ∧
        (provider.reply invocation.input).outcome = .value value ∧
          responder.respondValue invocation.type value ids = .ok (response, left) := by
  constructor
  · intro decided
    rcases prepared with failure | invocation
    · exact nomatch decided
    · rcases called : provider.result invocation.input with failure | returned
      · rw [verdict, called] at decided
        exact nomatch decided
      · rcases built : responder.respondValue invocation.type returned ids with
          failure | ⟨answer, left⟩
        · simp only [verdict, called, built] at decided
          exact nomatch decided
        · simp only [verdict, called, built, Except.ok.injEq, Prod.mk.injEq] at decided
          obtain ⟨rfl, rfl⟩ := decided
          exact ⟨invocation, left, rfl, Provider.result_eq_ok_iff.1 called, built⟩
  · rintro ⟨invocation, left, rfl, returned, built⟩
    simp only [verdict, Provider.result_eq_ok_iff.2 returned, built]

end Responder

/-! ## Both disciplines -/

namespace Session

variable (session : Session) (dispatcher : Dispatcher) (request : Request)

/-- An invocation with a response for the caller answers its verdict. -/
theorem fst_invoke : (session.invoke dispatcher request).1 =
    (Responder.ofRequest dispatcher.endpoint request.message).response
      ((Responder.ofRequest dispatcher.endpoint request.message).verdict dispatcher.provider
        session.world.ids (session.prepare dispatcher request.message).1) := by
  simp only [invoke, prepare_eq]
  rcases dispatcher.invocation session.memory request.message with failure | invocation
  · rfl
  · have world : (session.resolved dispatcher).world = session.world := rfl
    simp only [callPrepared, world, World.fst_call, World.ids_call, Responder.verdict]
    cases dispatcher.provider.result invocation.input with
    | error failure => rfl
    | ok value =>
      simp only [Except.map, Responder.answer]
      cases (Responder.ofRequest dispatcher.endpoint request.message).respondValue invocation.type
        value session.world.ids <;> rfl

/-- An invocation with a response for the caller tells the handler of its input. -/
theorem since_invoke : (session.invoke dispatcher request).2.world.since session.world =
    match (session.prepare dispatcher request.message).1 with
    | .error _ => []
    | .ok invocation => dispatcher.provider.handling invocation.input := by
  simp only [invoke, prepare_eq]
  rcases dispatcher.invocation session.memory request.message with failure | invocation
  · exact session.world.since_self
  · exact session.world.since_call .caller dispatcher.provider invocation.input

end Session

/-- Telling of a refusal is all that a refused invocation tells. -/
theorem Session.world_giveUp (session : Session) (failure : Failure)
    (told : Option Panic × World) : (session.giveUp failure told).2.world = told.2 := by
  rcases told with ⟨_ | panic, world⟩ <;> rfl

namespace Call

variable (call : Call)

/-- What is left of a deferred invocation calls the provider on its input and tells of the end. -/
theorem since_perform (invocation : Invocation) (thread : Thread) (task : Nat) (world : World) :
    (Deferred.perform thread ⟨task, call.job invocation⟩ world).2.since world =
      call.dispatcher.provider.handling invocation.input ++
        (call.ending invocation.type world.ids
          (call.dispatcher.provider.result invocation.input)).2 := by
  have job : (call.job invocation).dispatcher = call.dispatcher := rfl
  have input : (call.job invocation).invocation = invocation := rfl
  simp only [Deferred.perform_eq, World.since_eq_append (world.records_call thread _ _)
    (Deferred.records_tell _ thread _ _), World.since_call, since_tell, World.fst_call,
    World.ids_call, job, input]

/-- A callback is told of the verdict. -/
theorem ending_of_async {callback : Callback} (async : call.discipline = .async callback)
    (invocation : Invocation) (ids : IdSupply) :
    (call.ending invocation.type ids (call.dispatcher.provider.result invocation.input)).2 =
      [call.responder.notice
        (call.responder.verdict call.dispatcher.provider ids (.ok invocation))] := by
  simp only [ending, Responder.verdict, failureNotice, async]
  cases call.dispatcher.provider.result invocation.input with
  | error failure => rfl
  | ok value =>
    simp only []
    cases call.responder.respondValue invocation.type value ids <;> rfl

/-- A session in which a deferred invocation is refused has told of it. -/
theorem since_defer_of_refused {session : Session} {failure : Failure}
    (refused : session.admission call = .error failure) :
    (session.defer call).2.world.since session.world = call.failureNotice failure := by
  simp only [Session.admission] at refused
  simp only [Session.defer_eq, Session.prepareDeferred_eq, refused, Session.world_giveUp]
  exact call.since_tellRefusal failure session.world

/-- So it has if the invocation could not be prepared. -/
theorem since_refused {session : Session} {failure : Failure}
    (refused : call.dispatcher.invocation session.memory call.request.message = .error failure) :
    (session.defer call).2.world.since session.world = call.failureNotice failure := by
  apply call.since_defer_of_refused
  simp only [Session.admission, Dispatcher.admission, refused]

/-- A deferred invocation that is prepared goes to the executor that is selected. -/
theorem defer_of_selected {session : Session} {invocation : Invocation} {executor : Executor}
    (prepared : call.dispatcher.invocation session.memory call.request.message = .ok invocation)
    (selected : session.selectExecutor call.dispatcher call.request.context = .ok executor) :
    session.defer call = (.ok session.workshop.tasks.nextNumber,
      ((session.resolved call.dispatcher).submit executor (call.job invocation)).2) := by
  apply Session.defer_of_admitted
  rw [Session.selectExecutor_eq] at selected
  simp only [Session.admission, Dispatcher.admission, prepared, selected]

end Call

/-- What the observer of a dispatcher is told after its provider has been called: a failure only. -/
def Dispatcher.observed (dispatcher : Dispatcher) (input : Option Payload) : List Event :=
  match dispatcher.provider.result input with
  | .error failure =>
    dispatcher.observer.hears (.discarded dispatcher.endpoint.operation failure)
  | .ok _ => []

/-- An observer is told of a failure of the provider. -/
theorem Call.ending_of_oneWay {call : Call} (oneWay : call.discipline = .oneWay)
    (invocation : Invocation) (ids : IdSupply) :
    (call.ending invocation.type ids (call.dispatcher.provider.result invocation.input)).2 =
      call.dispatcher.observed invocation.input := by
  simp only [ending, failureNotice, oneWay, Dispatcher.observed]
  cases call.dispatcher.provider.result invocation.input <;> rfl

/-- An invocation comes to the same in all disciplines: one verdict decides about the response for
the caller and about what a callback is told, and the provider gets one input. -/
theorem Session.disciplines_agree (session : Session) (dispatcher : Dispatcher) (request : Request)
    (callback : Callback) {executor : Executor}
    (selected : session.selectExecutor dispatcher request.context = .ok executor) :
    let responder := Responder.ofRequest dispatcher.endpoint request.message
    let prepared := (session.prepare dispatcher request.message).1
    let verdict := responder.verdict dispatcher.provider session.world.ids prepared
    let told := responder.notice verdict
    told.response? = some (session.invoke dispatcher request).1 ∧
      (∀ value response, told = .succeeded value response ↔ ∃ invocation left,
        prepared = .ok invocation ∧
          (dispatcher.provider.reply invocation.input).outcome = .value value ∧
            responder.respondValue invocation.type value session.world.ids =
              .ok (response, left)) ∧
      (∀ failure, verdict = .error failure →
        told = .failed failure.root (session.invoke dispatcher request).1 ∧
          (session.invoke dispatcher request).1 = responder.faultResponse failure.toFault) ∧
      match prepared with
      | .error failure =>
        verdict = .error failure ∧
          (session.invoke dispatcher request).2.world.since session.world = [] ∧
          (session.invokeAsync dispatcher request callback).2.world.since session.world = [told]
      | .ok invocation =>
        let oneWay : Deferred := { dispatcher, invocation, recipient := .observer }
        let async : Deferred :=
          { dispatcher, invocation, recipient := .callback callback responder }
        let handling := dispatcher.provider.handling invocation.input
        let task := session.workshop.tasks.nextNumber
        (session.invoke dispatcher request).2.world.since session.world = handling ∧
          session.invokeOneWay dispatcher request =
            (.ok task, ((session.resolved dispatcher).submit executor oneWay).2) ∧
          session.invokeAsync dispatcher request callback =
            (.ok task, ((session.resolved dispatcher).submit executor async).2) ∧
          ∀ (later : Session) (thread : Thread), (later.workshop.tasks.begin task).1 = true →
            (later.ran thread ⟨task, oneWay⟩).world.since later.world =
                handling ++ dispatcher.observed invocation.input ∧
              (later.world.ids = session.world.ids →
                (later.ran thread ⟨task, async⟩).world.since later.world = handling ++ [told]) := by
  intro responder prepared verdict told
  have answered : (session.invoke dispatcher request).1 = responder.response verdict :=
    session.fst_invoke dispatcher request
  refine ⟨?handed, ?succeeded, ?failed, ?stages⟩
  case handed =>
    rw [answered]
    exact responder.response?_notice verdict
  case succeeded =>
    intro value response
    exact Responder.notice_eq_succeeded_iff.trans Responder.verdict_eq_ok_iff
  case failed =>
    intro failure failed
    rw [answered]
    simp only [told, failed]
    exact ⟨rfl, rfl⟩
  case stages =>
    have heard := session.since_invoke dispatcher request
    have reading := (congrArg Prod.fst (session.prepare_eq dispatcher request.message)).symm
    let oneWay : Call := ⟨dispatcher, request, .oneWay⟩
    let async : Call := ⟨dispatcher, request, .async callback⟩
    simp only [told, verdict, prepared]
    cases decided : (session.prepare dispatcher request.message).1 with
    | error failure =>
      rw [decided] at heard reading
      exact ⟨rfl, heard, async.since_refused reading⟩
    | ok invocation =>
      rw [decided] at heard reading
      refine ⟨heard, oneWay.defer_of_selected reading selected,
        async.defer_of_selected reading selected, ?_⟩
      intro later thread begins
      rw [Session.world_ran begins, Session.world_ran begins]
      constructor
      · have performed := oneWay.since_perform invocation thread
          session.workshop.tasks.nextNumber later.world
        rw [Call.ending_of_oneWay rfl] at performed
        exact performed
      · intro same
        have performed := async.since_perform invocation thread
          session.workshop.tasks.nextNumber later.world
        rw [async.ending_of_async rfl] at performed
        rw [← same]
        exact performed

/-- The callback of a queued invocation is told of what the caller would have been answered: the
text that was read out of the message, in a message like it. -/
theorem Session.disciplines_agree_echo :
    let callback : Callback := ⟨fun _ _ => none, fun _ _ => none⟩
    let dispatcher : Dispatcher :=
      { provider := .typed .text "Echo" .value, endpoint := { operation := "Echo" } }
    let message : Envelope := .ofBody .soap11 (.ofText "hi")
    let request : Request := { message := some message }
    let session : Session :=
      { workshop := { registry := [(serverRole, .queued)] }, world := { ids := ⟨toString, 0⟩ } }
    let later := (session.invokeAsync dispatcher request callback).2
    session.selectExecutor dispatcher request.context = .ok .queued ∧
      (session.invoke dispatcher request).1 = message ∧
      later.runNext.2.world.since later.world =
        [.handled (some (.text "hi")), .succeeded (some (.text "hi")) message] := by
  intro callback dispatcher message request session later
  have selected : session.selectExecutor dispatcher request.context = .ok .queued := rfl
  obtain ⟨handed, succeeded, _, stages⟩ :=
    session.disciplines_agree dispatcher request callback selected
  have told := (succeeded (some (.text "hi")) message).2
    ⟨⟨.text, some (.text "hi")⟩, session.world.ids, rfl, rfl, rfl⟩
  have run := stages.2.2.2 later .caller rfl
  rw [told] at handed
  exact ⟨selected, (Option.some.inj handed).symm, (run.2 rfl).trans (congrArg ([_, ·]) told)⟩

end SoapDispatch.Dispatch
