import SoapDispatch.Proofs.AbsentInput
import SoapDispatch.Proofs.Blame
import SoapDispatch.Proofs.Containment
import SoapDispatch.Proofs.Operations
import SoapDispatch.Proofs.Resolution

/-!
# Typed providers

A typed provider is only called without an input or on a payload of its own type, if every class of
providers is only ever declared with one type. What is remembered for a class is then the type that
it is declared with (`TypeMemory.Keeps`), whether invocations come one after the other or resolve
types side by side; a message is read as a payload of the type that is found out; and what waits in
a queue waits with its input (`Session.Keeps`). A typed provider is never told that a payload is not
of its type, nor is a value that it returns refused in payload mode, unless it works on whole
messages.
-/

namespace SoapDispatch

open SoapDispatch.Soap SoapDispatch.Dispatch

/-! ## Declared types -/

/-- Whether a contract declares no other type for its class than the given one. -/
def Contract.Keeps (declared : String → PayloadType) (contract : Contract) : Prop :=
  ∀ type, contract.payloadType = .ok type → declared contract.className = type

/-- Whether classes are only remembered with the types that are given for them. -/
def TypeMemory.Keeps (declared : String → PayloadType) (memory : TypeMemory) : Prop :=
  ∀ className type, memory.get? className = some type → declared className = type

namespace TypeMemory

variable {declared : String → PayloadType} {memory : TypeMemory}

/-- Nothing is remembered wrongly where nothing is remembered. -/
theorem keeps_nil : Keeps declared [] :=
  fun _ _ found => nomatch found

/-- Remembering the declared type of a class keeps to what is declared, and gives that type. -/
theorem Keeps.remember (kept : memory.Keeps declared) {className : String} {type : PayloadType}
    (own : declared className = type) :
    (memory.remember className type).2.Keeps declared ∧
      (memory.remember className type).1 = type := by
  cases found : memory.get? className with
  | some known =>
    rw [remember_of_known found]
    exact ⟨kept, (kept className known found).symm.trans own⟩
  | none =>
    rw [remember_of_unknown found]
    refine ⟨fun other known remembered => ?_, rfl⟩
    rw [Dictionary.get?_insert] at remembered
    split at remembered
    · next same => rw [same, own, Option.some.inj remembered]
    · exact kept other known remembered

/-- Resolving a contract keeps to what is declared, and finds out the declared type if any. -/
theorem Keeps.resolve (kept : memory.Keeps declared) {contract : Contract}
    (own : contract.Keeps declared) :
    (memory.resolve contract).2.Keeps declared ∧
      ∀ type, (memory.resolve contract).1 = .ok type → declared contract.className = type := by
  cases declares : contract.payloadType with
  | ok type =>
    rw [resolve_of_payloadType memory declares]
    obtain ⟨remembered, given⟩ := kept.remember (own type declares)
    refine ⟨remembered, ?_⟩
    rintro _ ⟨⟩
    rw [given]
    exact own type declares
  | error cause =>
    cases found : memory.get? contract.className with
    | some known =>
      rw [resolve_of_known found]
      refine ⟨kept, ?_⟩
      rintro _ ⟨⟩
      exact kept contract.className known found
    | none =>
      rw [resolve_of_refused found declares]
      exact ⟨kept, fun _ resolved => nomatch resolved⟩

end TypeMemory

namespace Resolution

variable {declared : String → PayloadType}

/-- Whether a call has found out the type that its class is declared with, if any. -/
def Call.Keeps (declared : String → PayloadType) : Call → Prop
  | .missed contract => contract.Keeps declared
  | .declared contract type => declared contract.className = type
  | .answered (.resolve contract) (.resolved (.ok type)) => declared contract.className = type
  | .answered _ _ => True

/-- Whether what is remembered and every call keep to what is declared. -/
structure Resolver.Keeps (declared : String → PayloadType) (resolver : Resolver) : Prop where
  memory : resolver.memory.Keeps declared
  calls : ∀ call ∈ resolver.calls, call.Keeps declared

/-- Whether a contract that a call is made with at some moment keeps to what is declared. -/
def Moment.Keeps (declared : String → PayloadType) (moment : Moment) : Prop :=
  ∀ contract, moment.event = .opened (.resolve contract) → contract.Keeps declared

/-- A step keeps to what is declared. -/
theorem Step.keeps {resolver next : Resolver} {number : Nat} {event : Event}
    (taken : Step resolver number event next) (kept : resolver.Keeps declared)
    (asked : Moment.Keeps declared ⟨resolver, number, event, next⟩) : next.Keeps declared := by
  cases taken with
  | opening request =>
    refine ⟨kept.memory, fun call member => ?_⟩
    rcases List.mem_append.1 member with earlier | new
    · exact kept.calls call earlier
    · rw [List.mem_singleton.1 new]
      cases request with
      | cached className => trivial
      | count => trivial
      | resolve contract =>
        -- The look finds the declared type, or the contract is still to be read.
        rw [Call.opening]
        cases found : resolver.memory.get? contract.className with
        | some known => exact kept.memory contract.className known found
        | none => exact asked contract rfl
  | @reading _ contract missed =>
    have own : contract.Keeps declared := kept.calls _ (List.mem_of_getElem? missed)
    refine ⟨kept.memory, fun call member => ?_⟩
    rcases List.mem_or_eq_of_mem_set member with other | rfl
    · exact kept.calls call other
    · rw [Call.reading]
      cases declares : contract.payloadType with
      | ok type => exact own type declares
      | error cause => trivial
  | @remembering _ contract type found =>
    have own : declared contract.className = type := kept.calls _ (List.mem_of_getElem? found)
    obtain ⟨remembered, given⟩ := kept.memory.remember own
    refine ⟨remembered, fun call member => ?_⟩
    rcases List.mem_or_eq_of_mem_set member with other | rfl
    · exact kept.calls call other
    · exact own.trans given.symm

/-- Calls that resolve types side by side keep to what is declared. -/
theorem Steps.keeps_declared {moments : List Moment} {resolver : Resolver}
    (history : Steps {} moments resolver) (asked : ∀ moment ∈ moments, moment.Keeps declared) :
    resolver.Keeps declared := by
  induction history with
  | refl => exact ⟨TypeMemory.keeps_nil, fun _ member => absurd member List.not_mem_nil⟩
  | step prior taken inductionHypothesis =>
    obtain ⟨before, last⟩ := List.forall_mem_append.1 asked
    exact taken.keeps (inductionHypothesis before) (last _ (List.mem_singleton_self _))

end Resolution

/-! ## Calls of typed providers -/

/-- A typed provider declares its type. -/
theorem Provider.payloadType_typed (type : PayloadType) (className : String)
    (handler : Option type.Value → Outcome type.Value) :
    (typed type className handler).contract.payloadType = .ok type := by
  cases type <;> rfl

/-- A value of its type is what a converter encodes, unless whole messages are encoded. -/
theorem Codec.exists_encode_ofValue_iff {type : PayloadType} {value : type.Value}
    {envelope : Envelope} {ids : IdSupply} :
    (∃ encoded, encode type (.ofValue type value) envelope ids = .ok encoded) ↔
      type ≠ .soapMessage := by
  cases type with
  | soapMessage =>
    refine iff_of_false ?_ fun other => other rfl
    rintro ⟨_, done⟩
    exact nomatch done
  | text | source | dataSource => exact iff_of_true ⟨_, rfl⟩ nofun

namespace Dispatch

/-- In payload mode the absence of a value is always answered, and so is a value of the type that a
response is built for, unless it is a whole message. -/
theorem Responder.exists_respondValue_iff {responder : Responder} (mode : responder.mode = .payload)
    {type : PayloadType} (value : Option type.Value) (ids : IdSupply) :
    (∃ response, responder.respondValue type (value.map (.ofValue type)) ids = .ok response) ↔
      (type ≠ .soapMessage ∨ value = none) := by
  cases value with
  | none => exact iff_of_true ⟨_, rfl⟩ (.inr rfl)
  | some value =>
    rw [Option.map_some, respondValue_of_payload mode, or_iff_left (Option.some_ne_none value),
      ← @Codec.exists_encode_ofValue_iff type value responder.emptyResponse ids]
    cases Codec.encode type (.ofValue type value) responder.emptyResponse ids <;> simp

/-- A call of a typed provider that meets nothing foreign: the handler is called without an input or
on a value of its type, what it does is the outcome, and in payload mode what it returns is
answered. -/
structure Invocation.Serves (invocation : Invocation) (provider : Provider) (type : PayloadType)
    (handler : Option type.Value → Outcome type.Value) : Prop where
  resolved : invocation.type = type
  own : ∀ payload, invocation.input = some payload → payload.payloadType = type
  handled : ∃ value : Option type.Value, invocation.input = value.map (.ofValue type) ∧
    provider.reply invocation.input =
      { handled := some invocation.input, outcome := (handler value).map (.ofValue type) }
  answered : ∀ responder : Responder, responder.mode = .payload →
    ∀ (value : Option type.Value) (ids : IdSupply),
      (∃ response, responder.respondValue invocation.type (value.map (.ofValue type)) ids =
        .ok response) ↔ (type ≠ .soapMessage ∨ value = none)

/-- Whether a provider meets nothing foreign in a call if it is typed. This is up to the invocation
alone: when the call is made, and on which thread, makes no difference. -/
def Invocation.Suits (invocation : Invocation) (provider : Provider) : Prop :=
  ∀ type className handler, provider = .typed type className handler →
    invocation.Serves provider type handler

/-- What a message is read as, once the declared type has been found out, suits the provider. -/
theorem Invocation.suits_of_inputOf? {declared : String → PayloadType} {provider : Provider}
    (own : provider.contract.Keeps declared) {type : PayloadType}
    (found : declared provider.contract.className = type) {mode : ExchangeMode}
    {message : Option Envelope} {input : Option Payload}
    (read : inputOf? mode type message = .ok input) : Suits ⟨type, input⟩ provider := by
  rintro ownType className handler rfl
  have same : ownType = type :=
    (own ownType (Provider.payloadType_typed ownType className handler)).symm.trans found
  subst same
  constructor
  case resolved => rfl
  case own =>
    rintro payload rfl
    exact payloadType_of_inputOf? read
  case handled =>
    cases input with
    | none => exact ⟨none, rfl, rfl⟩
    | some payload =>
      have typed : (payload.value? ownType).isSome :=
        (Payload.isSome_value?_iff ownType payload).2 (payloadType_of_inputOf? read)
      obtain ⟨value, known⟩ := Option.isSome_iff_exists.1 typed
      have required : payload.require ownType = .ok value := by
        rw [Payload.require, known]
      refine ⟨some value, congrArg some (Payload.require_eq_ok required), ?_⟩
      simp only [Provider.typed, required]
  case answered => exact fun responder mode => Responder.exists_respondValue_iff mode

/-! ## Runs -/

/-- Something that is done with a session: a provider is invoked for a response, in one of the other
disciplines, or only asked for its type, or else the tasks and executors are seen to. -/
inductive Use where
  | invoke (dispatcher : Dispatcher) (request : Request)
  | payloadType (dispatcher : Dispatcher)
  | operate (operation : Operation)

/-- The dispatcher that is used. -/
def Use.dispatcher? : Use → Option Dispatcher
  | .invoke dispatcher _ => some dispatcher
  | .payloadType dispatcher => some dispatcher
  | .operate (.defer call) => some call.dispatcher
  | .operate _ => none

/-- Whether the provider that is used keeps to what is declared. -/
def Use.Keeps (declared : String → PayloadType) (use : Use) : Prop :=
  ∀ dispatcher, use.dispatcher? = some dispatcher → dispatcher.provider.contract.Keeps declared

namespace Session

/-- Does one thing with a session. -/
def use (session : Session) : Use → Session
  | .invoke dispatcher request => (session.invoke dispatcher request).2
  | .payloadType dispatcher => (session.payloadType dispatcher).2
  | .operate operation => session.operate operation

/-- Does one thing after the other. -/
def used (session : Session) (uses : List Use) : Session :=
  uses.foldl use session

/-- The call of a unit, if the unit is not used up without one. -/
def unitCall (session : Session) (unit : WorkUnit Deferred) : List (Provider × Invocation) :=
  if (session.workshop.tasks.begin unit.task).1 then
    [(unit.job.dispatcher.provider, unit.job.invocation)]
  else []

/-- The providers that are called when something is done, with their invocations. -/
def calls (session : Session) : Use → List (Provider × Invocation)
  | .invoke dispatcher request =>
    match (session.prepare dispatcher request.message).1 with
    | .ok invocation => [(dispatcher.provider, invocation)]
    | .error _ => []
  | .operate (.defer call) =>
    match session.admission call with
    | .ok (invocation, executor) =>
      if executor = .queued then [] else [(call.dispatcher.provider, invocation)]
    | .error _ => []
  | .operate .runNext => session.workshop.queue.head?.elim [] session.unitCall
  | .payloadType _ | .operate (.cancel _) | .operate (.register _ _) => []

/-- Whether what is remembered keeps to what is declared, and what waits suits the providers. -/
structure Keeps (declared : String → PayloadType) (session : Session) : Prop where
  memory : session.memory.Keeps declared
  queue : ∀ unit ∈ session.workshop.queue, ∃ (call : Call) (invocation : Invocation),
    unit.job = call.job invocation ∧ invocation.Suits call.dispatcher.provider

variable {declared : String → PayloadType} {session : Session}

/-- An invocation that is prepared suits its provider. -/
theorem Keeps.suits (kept : session.Keeps declared) {dispatcher : Dispatcher}
    (own : dispatcher.provider.contract.Keeps declared) {message : Option Envelope}
    {invocation : Invocation}
    (prepared : dispatcher.invocation session.memory message = .ok invocation) :
    invocation.Suits dispatcher.provider := by
  obtain ⟨found, read⟩ := Dispatcher.invocation_eq_ok_iff.1 prepared
  exact Invocation.suits_of_inputOf? own ((kept.memory.resolve own).2 _ found) read

/-- An admitted invocation suits its provider. -/
theorem Keeps.suits_of_admission (kept : session.Keeps declared) {call : Call}
    (own : call.dispatcher.provider.contract.Keeps declared) {invocation : Invocation}
    {executor : Executor} (admitted : session.admission call = .ok (invocation, executor)) :
    invocation.Suits call.dispatcher.provider :=
  kept.suits own (Dispatcher.invocation_of_admission admitted)

/-- Once a type has been found out, what is remembered still keeps to what is declared. -/
theorem Keeps.resolved (kept : session.Keeps declared) {dispatcher : Dispatcher}
    (own : dispatcher.provider.contract.Keeps declared) :
    (session.resolved dispatcher).Keeps declared :=
  ⟨(kept.memory.resolve own).1, kept.queue⟩

/-- Running a unit leaves what is remembered and what waits. -/
theorem Keeps.ran (kept : session.Keeps declared) (thread : Thread) (unit : WorkUnit Deferred) :
    (session.ran thread unit).Keeps declared := by
  rcases begins : session.workshop.tasks.begin unit.task with ⟨_ | _, tasks⟩
  · rw [ran_of_stays begins]
    exact kept
  · rw [ran_of_begins begins]
    exact ⟨kept.memory, kept.queue⟩

/-- An invocation for the caller leaves what waits. -/
theorem exists_snd_invoke_eq (session : Session) (dispatcher : Dispatcher) (request : Request) :
    ∃ world, (session.invoke dispatcher request).2 =
      { session.resolved dispatcher with world } := by
  simp only [invoke, prepare_eq]
  cases dispatcher.invocation session.memory request.message <;> exact ⟨_, rfl⟩

/-- A deferred invocation keeps to what is declared. -/
theorem Keeps.defer (kept : session.Keeps declared) {call : Call}
    (own : call.dispatcher.provider.contract.Keeps declared) :
    (session.defer call).2.Keeps declared := by
  rcases admitted : session.admission call with failure | ⟨invocation, executor⟩
  · rcases told : call.panicAt (call.failureNotice failure) with _ | panic
    · rw [defer_of_silent told admitted]
      exact ⟨(kept.resolved own).memory, kept.queue⟩
    · rw [defer_of_panic told admitted]
      exact ⟨(kept.resolved own).memory, kept.queue⟩
  · have accepted : (session.accept call).Keeps declared :=
      ⟨(kept.resolved own).memory, kept.queue⟩
    rw [defer_of_admitted admitted]
    cases executor with
    | inline => exact accepted.ran .caller _
    | pooled => exact accepted.ran .other _
    | queued =>
      -- The unit waits with the input that the message was read as, whatever is found out later.
      refine ⟨accepted.memory, fun unit member => ?_⟩
      rcases List.mem_append.1 member with earlier | new
      · exact kept.queue unit earlier
      · rw [List.mem_singleton.1 new]
        exact ⟨call, invocation, rfl, kept.suits_of_admission own admitted⟩

/-- Whatever is done keeps to what is declared. -/
theorem Keeps.use (kept : session.Keeps declared) {use : Use} (own : use.Keeps declared) :
    (session.use use).Keeps declared := by
  cases use with
  | invoke dispatcher request =>
    obtain ⟨world, same⟩ := session.exists_snd_invoke_eq dispatcher request
    rw [Session.use, same]
    exact ⟨(kept.resolved (own dispatcher rfl)).memory, kept.queue⟩
  | payloadType dispatcher => exact kept.resolved (own dispatcher rfl)
  | operate operation =>
    cases operation with
    | defer call => exact kept.defer (own call.dispatcher rfl)
    | cancel task => exact ⟨kept.memory, kept.queue⟩
    | register role executor => exact ⟨kept.memory, kept.queue⟩
    | runNext =>
      cases queue : session.workshop.queue with
      | nil =>
        rw [Session.use, operate, snd_runNext_of_nil queue]
        exact kept
      | cons unit rest =>
        have fewer : ({ session with
            workshop := { session.workshop with queue := rest } } : Session).Keeps declared :=
          ⟨kept.memory, fun other member => kept.queue other (by simp [queue, member])⟩
        rw [Session.use, operate, snd_runNext_of_cons queue]
        exact fewer.ran .caller unit

/-- So does everything that is done one after the other. -/
theorem Keeps.used (kept : session.Keeps declared) {uses : List Use}
    (own : ∀ use ∈ uses, use.Keeps declared) : (session.used uses).Keeps declared := by
  induction uses generalizing session with
  | nil => exact kept
  | cons use rest inductionHypothesis =>
    obtain ⟨first, others⟩ := List.forall_mem_cons.1 own
    exact inductionHypothesis (kept.use first) others

/-- Providers are only called with invocations that suit them. -/
theorem Keeps.suits_of_mem_calls (kept : session.Keeps declared) {use : Use}
    (own : use.Keeps declared) {provider : Provider} {invocation : Invocation}
    (made : (provider, invocation) ∈ session.calls use) : invocation.Suits provider := by
  cases use with
  | invoke dispatcher request =>
    rw [calls, prepare_eq] at made
    cases prepared : dispatcher.invocation session.memory request.message with
    | error failure => simp [prepared] at made
    | ok other =>
      simp only [prepared, List.mem_singleton] at made
      cases made
      exact kept.suits (own dispatcher rfl) prepared
  | payloadType dispatcher => exact absurd made List.not_mem_nil
  | operate operation =>
    cases operation with
    | defer call =>
      rw [calls] at made
      rcases admitted : session.admission call with failure | ⟨other, executor⟩
      · simp [admitted] at made
      · simp only [admitted] at made
        split at made
        · exact absurd made List.not_mem_nil
        · cases List.mem_singleton.1 made
          exact kept.suits_of_admission (own call.dispatcher rfl) admitted
    | cancel task => exact absurd made List.not_mem_nil
    | register role executor => exact absurd made List.not_mem_nil
    | runNext =>
      cases queue : session.workshop.queue with
      | nil => simp [calls, queue] at made
      | cons unit rest =>
        simp only [calls, queue, List.head?_cons, Option.elim_some, unitCall] at made
        split at made
        · obtain ⟨call, ready, job, suits⟩ := kept.queue unit (by simp [queue])
          rw [job] at made
          cases List.mem_singleton.1 made
          exact suits
        · exact absurd made List.not_mem_nil

end Session

/-! ## What handlers are told -/

/-- The input that a handler is told of. -/
def Event.handled? : Event → Option (Option Payload)
  | .handled input => some input
  | _ => none

/-- What handlers are told of when providers are called with invocations. -/
def handledIn (calls : List (Provider × Invocation)) : List (Option Payload) :=
  calls.filterMap fun call => (call.1.reply call.2.input).handled

/-- The handler of a provider is told of what it handles. -/
theorem filterMap_handling (provider : Provider) (invocation : Invocation) :
    (provider.handling invocation.input).filterMap Event.handled? =
      handledIn [(provider, invocation)] := by
  unfold Provider.handling handledIn
  cases handled : (provider.reply invocation.input).handled <;> simp [handled, Event.handled?]

/-- Notices are not for handlers. -/
theorem filterMap_handled?_of_filter {events : List Event}
    (notices : events.filter Event.isNotice = events) : events.filterMap Event.handled? = [] := by
  refine List.filterMap_eq_nil_iff.2 fun event member => ?_
  have notice := List.filter_eq_self.1 notices event member
  cases event with
  | handled input => exact nomatch notice
  | discarded | succeeded | failed => rfl

namespace Session

variable {declared : String → PayloadType} {session : Session}

/-- Running a unit tells its handler of the input, if the unit is not used up without a call. -/
theorem handled_ran {thread : Thread} {unit : WorkUnit Deferred} {call : Call}
    {invocation : Invocation} (job : unit.job = call.job invocation) :
    ((session.ran thread unit).world.since session.world).filterMap Event.handled? =
      handledIn (session.unitCall unit) := by
  obtain ⟨task, left⟩ := unit
  obtain rfl : left = call.job invocation := job
  rcases begins : (session.workshop.tasks.begin task).1 with _ | _
  · rw [ran_of_stays (Prod.ext begins rfl), World.since_self, unitCall, begins]
    rfl
  · rw [world_ran begins, call.since_perform, List.filterMap_append, filterMap_handling,
      filterMap_handled?_of_filter (call.filter_ending _ _ _), List.append_nil, unitCall, begins]
    rfl

/-- A deferred invocation that is run at once tells its handler of the input. -/
theorem handled_ran_accept (thread : Thread) (call : Call) (invocation : Invocation) :
    let unit : WorkUnit Deferred := ⟨session.workshop.tasks.nextNumber, call.job invocation⟩
    (((session.accept call).ran thread unit).world.since session.world).filterMap Event.handled? =
      handledIn [(call.dispatcher.provider, invocation)] := by
  intro unit
  have begins : ((session.accept call).workshop.tasks.begin unit.task).1 = true :=
    (TaskTable.begin_of_pending session.status?_accept).1
  have told := @handled_ran (session.accept call) thread unit call invocation rfl
  rw [unitCall, if_pos begins] at told
  exact told

/-- The handlers that are told of their inputs are those of the providers that are called. -/
theorem Keeps.handled_use (kept : session.Keeps declared) (use : Use) :
    ((session.use use).world.since session.world).filterMap Event.handled? =
      handledIn (session.calls use) := by
  have silent : (session.world.since session.world).filterMap Event.handled? = handledIn [] := by
    rw [World.since_self]
    rfl
  cases use with
  | invoke dispatcher request =>
    rw [Session.use, since_invoke, calls]
    cases (session.prepare dispatcher request.message).1 with
    | error failure => rfl
    | ok invocation => exact filterMap_handling dispatcher.provider invocation
  | payloadType dispatcher => exact silent
  | operate operation =>
    cases operation with
    | cancel task => exact silent
    | register role executor => exact silent
    | defer call =>
      rw [Session.use, operate, calls]
      rcases admitted : session.admission call with failure | ⟨invocation, executor⟩
      · rw [call.since_defer_of_refused admitted,
          filterMap_handled?_of_filter (call.filter_failureNotice failure)]
        rfl
      · rw [defer_of_admitted admitted]
        cases executor with
        | inline => exact session.handled_ran_accept .caller call invocation
        | pooled => exact session.handled_ran_accept .other call invocation
        | queued => exact silent
    | runNext =>
      rw [Session.use, operate, calls]
      cases queue : session.workshop.queue with
      | nil =>
        rw [snd_runNext_of_nil queue]
        exact silent
      | cons unit rest =>
        obtain ⟨call, invocation, job, _⟩ := kept.queue unit (by simp [queue])
        rw [snd_runNext_of_cons queue]
        exact handled_ran job

end Session

/-- Where every class of providers is only ever declared with one payload type, typed providers meet
nothing foreign: whatever has been done before, what handlers are told of are the inputs of calls,
and every call suits its provider. Nor does it matter which types are found out side by side: what
is read of a message as a payload of such a type suits the provider too. -/
theorem typed_calls (declared : String → PayloadType) :
    (∀ (registry : ExecutorRegistry) (world : World) (before : List Use) (use : Use),
      (∀ each ∈ before ++ [use], each.Keeps declared) →
        let session := (Session.opening [] registry world).used before
        ((session.use use).world.since session.world).filterMap Event.handled? =
            handledIn (session.calls use) ∧
          ∀ call ∈ session.calls use, call.2.Suits call.1) ∧
    ∀ (moments : List Resolution.Moment) (resolver : Resolution.Resolver),
      Resolution.Steps {} moments resolver → (∀ moment ∈ moments, moment.Keeps declared) →
        ∀ (number : Nat) (provider : Provider) (type : PayloadType),
          resolver.answered? number =
              some (.resolve provider.contract, .resolved (.ok type)) →
            ∀ (mode : ExchangeMode) (message : Option Envelope) (input : Option Payload),
              inputOf? mode type message = .ok input → Invocation.Suits ⟨type, input⟩ provider := by
  refine ⟨?runs, ?resolutions⟩
  case runs =>
    intro registry world before use own session
    obtain ⟨earlier, last⟩ := List.forall_mem_append.1 own
    have opened : (Session.opening [] registry world).Keeps declared :=
      ⟨TypeMemory.keeps_nil, fun _ member => absurd member List.not_mem_nil⟩
    have kept : session.Keeps declared := opened.used earlier
    exact ⟨kept.handled_use use,
      fun _ made => kept.suits_of_mem_calls (last use (List.mem_singleton_self use)) made⟩
  case resolutions =>
    intro moments resolver history asked number provider type answered mode message input read
    have known := Resolution.Resolver.answered?_eq_some_iff.1 answered
    have found : declared provider.contract.className = type :=
      (history.keeps_declared asked).calls _ (List.mem_of_getElem? known)
    obtain ⟨moment, member, request, _, opened, came⟩ := history.came known
    have own : provider.contract.Keeps declared := by
      cases came
      exact asked moment member provider.contract opened
    exact Invocation.suits_of_inputOf? own found read

/-- A handler of texts is told of the text of a message that waited in a queue, and the text of
another one suits its provider when two calls have found out the type side by side. -/
theorem typed_calls_echo :
    let dispatcher : Dispatcher :=
      { provider := .typed .text "Echo" .value, endpoint := { operation := "Echo" } }
    let contract := dispatcher.provider.contract
    let message : Envelope := .ofBody .soap11 (.ofText "hi")
    let other : Envelope := .ofBody .soap12 (.ofText "bye")
    let call : Call := ⟨dispatcher, { message := some message }, .oneWay⟩
    let session := (Session.opening [] [(serverRole, .queued)] { ids := ⟨toString, 0⟩ }).used
      [.operate (.defer call)]
    (((session.use (.operate .runNext)).world.since session.world).filterMap Event.handled? =
        [some (.text "hi")] ∧
      Invocation.Serves ⟨.text, some (.text "hi")⟩ dispatcher.provider .text .value) ∧
    ∃ moments resolver, Resolution.Steps {} moments resolver ∧
      moments.map Resolution.Moment.event = [.opened (.resolve contract),
        .opened (.resolve contract), .read, .read, .remembered, .remembered] ∧
      resolver.calls = List.replicate 2 (.answered (.resolve contract) (.resolved (.ok .text))) ∧
      inputOf? .payload .text (some other) = .ok (some (.text "bye")) ∧
      Invocation.Serves ⟨.text, some (.text "bye")⟩ dispatcher.provider .text .value := by
  intro dispatcher contract message other call session
  have declares : contract.payloadType = .ok .text :=
    Provider.payloadType_typed .text "Echo" .value
  have keeps : contract.Keeps fun _ => .text :=
    fun _ same => Except.ok.inj (declares.symm.trans same)
  obtain ⟨runs, resolutions⟩ := typed_calls fun _ => .text
  refine ⟨?queue, ?resolver⟩
  case queue =>
    have own : ∀ each ∈ [.operate (.defer call)] ++ [.operate .runNext],
        Use.Keeps (fun _ => .text) each := by
      refine List.forall_mem_append.2
        ⟨List.forall_mem_singleton.2 ?_, List.forall_mem_singleton.2 nofun⟩
      rintro _ ⟨⟩
      exact keeps
    have called : session.calls (.operate .runNext) =
        [(dispatcher.provider, ⟨.text, some (.text "hi")⟩)] := rfl
    obtain ⟨told, suits⟩ := runs _ _ _ _ own
    have suited := suits _ (called ▸ List.mem_singleton_self _)
    exact ⟨told.trans (congrArg handledIn called), suited .text "Echo" .value rfl⟩
  case resolver =>
    have opened : Resolution.Steps {} _ _ :=
      (Resolution.Steps.refl.step (.opening (.resolve contract))).step
        (.opening (.resolve contract))
    have read := (opened.step (@Resolution.Step.reading _ 0 contract rfl)).step
      (@Resolution.Step.reading _ 1 contract rfl)
    have history := (read.step (@Resolution.Step.remembering _ 0 contract .text rfl)).step
      (@Resolution.Step.remembering _ 1 contract .text rfl)
    have input : inputOf? .payload .text (some other) = .ok (some (.text "bye")) := rfl
    have suited := resolutions _ _ history ?asked 0 dispatcher.provider .text rfl .payload
      (some other) _ input
    case asked =>
      intro moment member named opened
      have asked : named = contract := by
        simpa [opened] using List.mem_map_of_mem (f := Resolution.Moment.event) member
      exact asked ▸ keeps
    exact ⟨_, _, history, rfl, rfl, input, suited .text "Echo" .value rfl⟩

end Dispatch

end SoapDispatch
