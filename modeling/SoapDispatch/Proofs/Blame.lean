import SoapDispatch.Proofs.Agreement
import SoapDispatch.Proofs.RootCauses

/-!
# Who is blamed

What a caller is told when an invocation in payload mode goes wrong. One malformation can be met
when the body is read, inside the provider, and when its value is encoded; only in the first two
places is the received message to blame. `Mishap` says what has gone wrong and where, `Meets` which
mishaps an invocation meets, and the fault of the response depends on the mishap alone.
-/

namespace SoapDispatch

open SoapDispatch.Soap

/-- An envelope that a body was put into carries no fault. -/
theorem Soap.Envelope.isFault_setBody (envelope : Envelope) (body : Body) :
    (envelope.setBody body).isFault = false := by
  rw [Envelope.isFault, Envelope.fault?, Envelope.setBody]
  cases empty : body.isEmpty <;> simp [Body.toContent, empty]

namespace Dispatch

/-! ## Mishaps -/

/-- What can go wrong with an invocation. -/
inductive Mishap where
  /-- The payload type of the provider is not found out. -/
  | unresolved (error : DispatchError)
  /-- The input cannot be read out of the message. -/
  | refused (error : DispatchError)
  /-- The provider returns an error. -/
  | failed (chain : ErrorChain)
  | panicked (panic : Panic)
  /-- The value that the provider returns cannot be encoded. -/
  | unencodable (error : DispatchError)

namespace Mishap

/-- The failure that a mishap is. -/
def failure : Mishap → Failure
  | unresolved error => .ofDispatch error
  | refused error => .ofDispatch error
  | failed chain => .capture chain
  | panicked panic => .ofPanic panic
  | unencodable error => .ofDispatch error.asResponseConstruction

/-- The message of the root cause of a mishap. -/
def message : Mishap → String
  | unresolved error => error.message
  | refused error => error.message
  | failed chain => chain.root.message
  | panicked panic => panic.message
  | unencodable error => error.asResponseConstruction.message

/-- The fault that the provider has chosen itself, if it has. -/
def chosen? : Mishap → Option Fault
  | failed { root := .fault fault, .. } => some fault
  | _ => none

/-- The mishaps that the received message is to blame for: the body cannot be read because it is
malformed, or the provider gives that as the root of its error. -/
inductive BlamesClient : Mishap → Prop where
  | refused (cause : Malformation) : BlamesClient (.refused (.malformedPayload cause))
  | failed (cause : Malformation) (layers : List Cause) :
      BlamesClient (.failed { root := .dispatch (.malformedPayload cause), layers })

/-- What the caller is told of a mishap: the fault that the provider has chosen, or one that blames
the client or the server and gives the message of the root cause as its reason. -/
structure Tells (mishap : Mishap) (fault : Fault) : Prop where
  chosen : ∀ chosen, mishap.chosen? = some chosen → fault = chosen
  client : mishap.chosen? = none → (fault.code = .client ↔ mishap.BlamesClient)
  server : mishap.chosen? = none → (fault.code = .server ↔ ¬mishap.BlamesClient)
  reason : mishap.chosen? = none → fault.reason =
    if Text.isBlank mishap.message then Fault.internal.reason else mishap.message

/-- The message of a mishap is that of its failure. -/
theorem message_failure (mishap : Mishap) : mishap.failure.message = mishap.message := by
  cases mishap with
  | failed chain => rw [failure, Failure.capture_eq, Failure.message, message]
  | unresolved | refused | panicked | unencodable => rfl

/-- The failure of a mishap is worded as its error. -/
theorem worded_failure (mishap : Mishap) : mishap.failure.Worded := by
  cases mishap with
  | failed chain => exact Failure.worded_capture chain
  | panicked panic => exact fun error nature => nomatch nature
  | unresolved | refused | unencodable =>
    intro error nature
    cases nature
    rfl

/-- A fault is chosen when the failure is of that nature. -/
theorem chosen?_eq_some_iff {mishap : Mishap} {fault : Fault} :
    mishap.chosen? = some fault ↔ mishap.failure.root.origin = .fault fault := by
  cases mishap with
  | failed chain =>
    obtain ⟨root, layers⟩ := chain
    simp only [failure, Failure.capture_eq]
    cases root <;> simp [chosen?, Cause.origin]
  | unresolved | refused | panicked | unencodable =>
    simp [chosen?, failure, Failure.ofDispatch, Failure.ofPanic]

end Mishap

/-! ## Meeting mishaps -/

/-- The mishaps that an invocation meets: at most one, in the first stage that goes wrong. -/
inductive Meets (session : Session) (dispatcher : Dispatcher) (request : Request) : Mishap → Prop where
  | unresolved {error : DispatchError}
      (resolution : (session.payloadType dispatcher).1 = .error error) :
      Meets session dispatcher request (.unresolved error)
  | refused {type : PayloadType} {error : DispatchError}
      (resolution : (session.payloadType dispatcher).1 = .ok type)
      (reading : inputOf? dispatcher.endpoint.mode type
        (request.message.map (received dispatcher.endpoint.mtom)) = .error error) :
      Meets session dispatcher request (.refused error)
  | failed {invocation : Invocation} {chain : ErrorChain}
      (prepared : (session.prepare dispatcher request.message).1 = .ok invocation)
      (called : (dispatcher.provider.reply invocation.input).outcome = .failure chain) :
      Meets session dispatcher request (.failed chain)
  | panicked {invocation : Invocation} {panic : Panic}
      (prepared : (session.prepare dispatcher request.message).1 = .ok invocation)
      (called : (dispatcher.provider.reply invocation.input).outcome = .panic panic) :
      Meets session dispatcher request (.panicked panic)
  | unencodable {invocation : Invocation} {payload : Payload} {error : DispatchError}
      (prepared : (session.prepare dispatcher request.message).1 = .ok invocation)
      (called : (dispatcher.provider.reply invocation.input).outcome = .value (some payload))
      (encoding : Codec.encode invocation.type payload
        (Responder.ofRequest dispatcher.endpoint request.message).emptyResponse
          session.world.ids = .error error) :
      Meets session dispatcher request (.unencodable error)

section Invocation

variable {session : Session} {dispatcher : Dispatcher} {request : Request} {mishap : Mishap}

/-- An invocation is prepared by finding out the payload type and reading the input. -/
theorem Session.fst_prepare : (session.prepare dispatcher request.message).1 =
    match (session.payloadType dispatcher).1 with
    | .error error => .error (.ofDispatch error)
    | .ok type =>
      match inputOf? dispatcher.endpoint.mode type
        (request.message.map (received dispatcher.endpoint.mtom)) with
      | .error error => .error (.ofDispatch error)
      | .ok input => .ok { type, input } := by
  rw [prepare_eq]
  rfl

/-- A payload type that is not found out is one that the provider does not declare properly. -/
theorem exists_of_payloadType_eq_error {error : DispatchError}
    (resolution : (session.payloadType dispatcher).1 = .error error) :
    ∃ cause, error = .unsupportedPayloadType cause := by
  simp only [Session.payloadType, TypeMemory.resolve] at resolution
  split at resolution
  · exact nomatch resolution
  · split at resolution
    · next cause _ => exact ⟨cause, (Except.error.inj resolution).symm⟩
    · exact nomatch resolution

/-- The client is to blame when the failure is a malformed payload of the message. -/
theorem Meets.blamesClient_iff (meets : Meets session dispatcher request mishap) :
    mishap.BlamesClient ↔
      ∃ cause, mishap.failure.root.origin = .dispatch (.malformedPayload cause) := by
  constructor
  · intro blames
    cases blames with
    | refused cause => exact ⟨cause, rfl⟩
    | failed cause layers =>
      refine ⟨cause, ?_⟩
      rw [Mishap.failure, Failure.capture_eq]
      rfl
  · rintro ⟨cause, nature⟩
    cases meets with
    | unresolved resolution =>
      obtain ⟨refusal, rfl⟩ := exists_of_payloadType_eq_error resolution
      exact nomatch nature
    | refused resolution reading =>
      cases nature
      exact .refused cause
    | @failed _ chain prepared called =>
      obtain ⟨root, layers⟩ := chain
      rw [Mishap.failure, Failure.capture_eq] at nature
      cases root with
      | plain | fault => exact nomatch nature
      | dispatch error =>
        cases nature
        exact .failed cause layers
    | panicked prepared called => exact nomatch nature
    | @unencodable _ _ error prepared called encoding =>
      cases error <;> exact nomatch nature

/-- The fault that a failure becomes tells of the mishap that it is. -/
theorem Meets.tells (meets : Meets session dispatcher request mishap) :
    mishap.Tells mishap.failure.toFault := by
  have own (none : mishap.chosen? = none) (fault : Fault) :
      mishap.failure.root.origin ≠ .fault fault := by
    intro nature
    rw [Mishap.chosen?_eq_some_iff.2 nature] at none
    exact nomatch none
  have ordinary (none : mishap.chosen? = none) :=
    Failure.toFault_of_not_chosen (own none) mishap.worded_failure
  refine ⟨?chosen, ?client, ?server, ?reason⟩
  case chosen =>
    intro fault chosen
    exact Failure.toFault_of_chosen (Mishap.chosen?_eq_some_iff.1 chosen)
  case client =>
    intro none
    rw [(ordinary none).1, meets.blamesClient_iff, Failure.faultCode_eq_client_iff]
  case server =>
    intro none
    rw [(ordinary none).1, meets.blamesClient_iff, Failure.faultCode_eq_server_iff,
      Ne, Failure.faultCode_eq_client_iff]
  case reason =>
    intro none
    rw [(ordinary none).2, mishap.message_failure]

/-- In payload mode a value is answered by the body it is encoded as, and not answered if it cannot
be encoded. -/
theorem Responder.respondValue_of_payload {responder : Responder} (mode : responder.mode = .payload)
    (type : PayloadType) (payload : Payload) (ids : IdSupply) :
    responder.respondValue type (some payload) ids =
      match Codec.encode type payload responder.emptyResponse ids with
      | .ok encoded =>
        let response := encoded.envelope.setBody encoded.body
        .ok (if responder.mtom then response.setMtom true else response, encoded.ids)
      | .error error => .error (.ofDispatch error.asResponseConstruction) := by
  simp only [respondValue, respond, encoded, mode]
  cases Codec.encode type payload responder.emptyResponse ids <;> rfl

/-- In payload mode the response that carries a value, or none, is no fault. -/
theorem Responder.isFault_of_respondValue {responder : Responder}
    (mode : responder.mode = .payload) {type : PayloadType} {value : Option Payload}
    {ids left : IdSupply} {response : Envelope}
    (built : responder.respondValue type value ids = .ok (response, left)) :
    response.isFault = false := by
  cases value with
  | none =>
    cases built
    rfl
  | some payload =>
    rw [respondValue_of_payload mode] at built
    split at built
    · next encoded _ =>
      have same := congrArg Prod.fst (Except.ok.inj built)
      have kept := encoded.envelope.isFault_setBody encoded.body
      simp only at same
      rw [← same]
      split <;> exact kept
    · exact nomatch built

/-- The verdict on an invocation that meets a mishap is its failure. -/
theorem Meets.verdict (mode : dispatcher.endpoint.mode = .payload)
    (meets : Meets session dispatcher request mishap) :
    (Responder.ofRequest dispatcher.endpoint request.message).verdict dispatcher.provider
      session.world.ids (session.prepare dispatcher request.message).1 =
        .error mishap.failure := by
  cases meets with
  | unresolved resolution =>
    rw [Session.fst_prepare, resolution]
    rfl
  | refused resolution reading =>
    simp only [Session.fst_prepare, resolution, reading]
    rfl
  | failed prepared called =>
    simp only [prepared, Responder.verdict, Provider.result, called]
    rfl
  | panicked prepared called =>
    simp only [prepared, Responder.verdict, Provider.result, called]
    rfl
  | unencodable prepared called encoding =>
    have silent := @Responder.respondValue_of_payload
      (.ofRequest dispatcher.endpoint request.message) mode
    simp only [prepared, Responder.verdict, Provider.result, called, silent, encoding]
    rfl

/-- An invocation whose verdict is a failure meets a mishap. -/
theorem exists_meets_of_verdict (mode : dispatcher.endpoint.mode = .payload) {failure : Failure}
    (failed : (Responder.ofRequest dispatcher.endpoint request.message).verdict dispatcher.provider
      session.world.ids (session.prepare dispatcher request.message).1 = .error failure) :
    ∃ mishap, Meets session dispatcher request mishap := by
  rcases prepared : (session.prepare dispatcher request.message).1 with stopped | invocation
  · rcases resolution : (session.payloadType dispatcher).1 with error | type
    · exact ⟨_, .unresolved resolution⟩
    · rcases reading : inputOf? dispatcher.endpoint.mode type
        (request.message.map (received dispatcher.endpoint.mtom)) with error | input
      · exact ⟨_, .refused resolution reading⟩
      · simp only [Session.fst_prepare, resolution, reading] at prepared
        cases prepared
  · rcases called : (dispatcher.provider.reply invocation.input).outcome with value | chain | panic
    · rw [prepared] at failed
      simp only [Responder.verdict, Provider.result, called] at failed
      rcases value with _ | payload
      · cases failed
      · rw [Responder.respondValue_of_payload mode] at failed
        rcases encoding : Codec.encode invocation.type payload
          (Responder.ofRequest dispatcher.endpoint request.message).emptyResponse
            session.world.ids with error | encoded
        · exact ⟨_, .unencodable prepared called encoding⟩
        · rw [encoding] at failed
          cases failed
    · exact ⟨_, .failed prepared called⟩
    · exact ⟨_, .panicked prepared called⟩

end Invocation

/-- In payload mode the response is a fault exactly when the invocation meets a mishap: the payload
type is not found out, the input is refused, the provider fails or panics, or its value cannot be
encoded. The fault is the one that the provider has chosen, or it blames the client for a malformed
payload, in the message or at the root of the provider's error, and the server for everything else. -/
theorem Session.invoke_blame (session : Session) (dispatcher : Dispatcher) (request : Request)
    (mode : dispatcher.endpoint.mode = .payload) :
    ((session.invoke dispatcher request).1.isFault = true ↔
      ∃ mishap, Meets session dispatcher request mishap) ∧
    ∀ mishap, Meets session dispatcher request mishap →
      ∃ fault, (session.invoke dispatcher request).1.fault? = some fault ∧ mishap.Tells fault := by
  have told {mishap : Mishap} (meets : Meets session dispatcher request mishap) :
      (session.invoke dispatcher request).1.fault? = some mishap.failure.toFault := by
    rw [session.fst_invoke, meets.verdict mode]
    rfl
  refine ⟨⟨?meets, ?answers⟩, fun mishap meets => ⟨_, told meets, meets.tells⟩⟩
  case meets =>
    intro fault
    rw [session.fst_invoke] at fault
    rcases decided : (Responder.ofRequest dispatcher.endpoint request.message).verdict
      dispatcher.provider session.world.ids (session.prepare dispatcher request.message).1 with
      failure | ⟨value, response⟩
    · exact exists_meets_of_verdict mode decided
    · obtain ⟨invocation, left, _, _, built⟩ := Responder.verdict_eq_ok_iff.1 decided
      have plain := Responder.isFault_of_respondValue mode built
      rw [decided, Responder.response, plain] at fault
      exact nomatch fault
  case answers =>
    rintro ⟨mishap, meets⟩
    rw [Envelope.isFault, told meets]
    rfl

/-- A provider that wraps a malformed payload blames the client, and one that returns a text in
place of an element is to blame itself. -/
theorem Session.invoke_blame_malformed :
    let session : Session := { world := { ids := ⟨toString, 0⟩ } }
    let endpoint : Endpoint := { operation := "Echo" }
    let chain : ErrorChain :=
      { root := .dispatch (.malformedPayload (.stated "no order")), layers := [.plain "booking"] }
    let wrapping : Provider := .dynamic (.declared "Orders" "text") fun _ => .failure chain
    let confused : Provider :=
      .dynamic (.declared "Echo" "source") fun _ => .value (some (.text "pong"))
    (∃ fault, (session.invoke ⟨wrapping, endpoint, .nobody, false⟩ {}).1.fault? = some fault ∧
      fault.code = .client ∧ fault.reason = "Malformed payload: no order") ∧
    ∃ fault, (session.invoke ⟨confused, endpoint, .nobody, false⟩ {}).1.fault? = some fault ∧
      fault.code = .server ∧ fault.reason = "Response construction failure: " ++
        "Malformed payload: expected a source payload, got text" := by
  intro session endpoint chain wrapping confused
  have failed : Meets session ⟨wrapping, endpoint, .nobody, false⟩ {} (.failed chain) :=
    @Meets.failed _ _ _ ⟨.text, none⟩ chain rfl rfl
  have mismatch : Meets session ⟨confused, endpoint, .nobody, false⟩ {}
      (.unencodable (.malformedPayload (.typeMismatch .source .text))) :=
    @Meets.unencodable _ _ _ ⟨.source, none⟩ (.text "pong") _ rfl rfl rfl
  obtain ⟨first, answered, tells⟩ := (session.invoke_blame _ {} rfl).2 _ failed
  obtain ⟨second, replied, blames⟩ := (session.invoke_blame _ {} rfl).2 _ mismatch
  refine ⟨⟨first, answered, (tells.client rfl).2 (.failed _ _), ?_⟩,
    second, replied, (blames.server rfl).2 ?_, ?_⟩
  · exact (tells.reason rfl).trans (by decide)
  · exact nofun
  · exact (blames.reason rfl).trans (by decide)

end Dispatch

end SoapDispatch
