import SoapDispatch.Proofs.Agreement
import SoapDispatch.Proofs.Attaching

/-!
# The flag of a response

Whether a response is optimised. Every encoder gives its message the flag of the responder, and none
touches it while it attaches data. Only a message that the provider returns as a whole keeps its
own flag: a responder for optimised messages raises it, and no other one lowers it.
-/

namespace SoapDispatch

open SoapDispatch.Xml SoapDispatch.Soap SoapDispatch.Dispatch

/-! ## Encoders -/

namespace Codec

/-- Encoding a payload for a message changes nothing of the message but its attachments. -/
theorem exists_encode_eq {type : PayloadType} {payload : Payload} {envelope : Envelope}
    {ids : IdSupply} {encoded : Encoded}
    (done : encode type payload envelope ids = .ok encoded) :
    ∃ attachments, encoded.envelope = { envelope with attachments } := by
  cases type with
  | text =>
    obtain ⟨text, _, made⟩ := exists_of_bind_eq_ok done
    cases made
    exact ⟨envelope.attachments, rfl⟩
  | source =>
    obtain ⟨element, _, made⟩ := exists_of_bind_eq_ok done
    cases made
    exact ⟨envelope.attachments, rfl⟩
  | soapMessage => exact nomatch done
  | dataSource =>
    obtain ⟨data, _, made⟩ := exists_of_bind_eq_ok done
    obtain ⟨attachments, same⟩ := exists_encodeData_eq data envelope ids
    exact ⟨attachments, Except.ok.inj made ▸ same⟩

/-- A message read from a body has the given flag. -/
theorem mtom_of_messageOfBody {body : Body} {mtom : Bool} {attachments : Attachments}
    {message : Envelope} (done : messageOfBody body mtom attachments = .ok message) :
    message.mtom = mtom := by
  unfold messageOfBody at done
  split at done
  · exact nomatch done
  · split at done
    · exact nomatch done
    · cases done
      rfl

/-- A message read from data has the given flag. -/
theorem mtom_of_messageOfData {data : DataSource} {mtom : Bool} {ids left : IdSupply}
    {message : Envelope} (done : messageOfData data mtom ids = .ok (message, left)) :
    message.mtom = mtom := by
  unfold messageOfData at done
  split at done
  · exact nomatch done
  · simp only [] at done
    split at done
    · obtain ⟨⟨nodes, between, rest⟩, encoded, made⟩ := exists_of_bind_eq_ok done
      obtain ⟨attachments, rfl⟩ := exists_externalizeNodes_eq encoded
      cases made
      rfl
    · cases done
      rfl

/-- A payload encoded as a whole message has the given flag, unless it is a message itself: the flag
of that one can only be raised. -/
theorem mtom_of_encodeMessage {type : PayloadType} {payload : Payload} {protocol : Protocol}
    {mtom : Bool} {ids left : IdSupply} {message : Envelope}
    (done : encodeMessage type payload protocol mtom ids = .ok (message, left)) :
    (∀ envelope, payload ≠ .message envelope) → message.mtom = mtom := by
  intro other
  have ofBody {body : Body} {attachments : Attachments} {read : Envelope}
      (made : orMalformed (messageOfBody body mtom attachments) = .ok read) :
      read.mtom = mtom := mtom_of_messageOfBody (eq_ok_of_mapError made)
  cases type with
  | soapMessage =>
    obtain ⟨envelope, required, _⟩ := exists_of_bind_eq_ok done
    exact absurd (Payload.require_eq_ok required) (other envelope)
  | dataSource =>
    obtain ⟨data, _, made⟩ := exists_of_bind_eq_ok done
    exact mtom_of_messageOfData (eq_ok_of_mapError made)
  | text | source =>
    obtain ⟨encoded, _, rest⟩ := exists_of_bind_eq_ok done
    obtain ⟨read, known, made⟩ := exists_of_bind_eq_ok rest
    cases made
    exact ofBody known

end Codec

namespace Dispatch

/-! ## Responses -/

/-- The message that an output passes on as a whole. -/
def Output.passed? (mode : ExchangeMode) : Output → Option Envelope
  | .value (some (.message message)) => if mode = .message then some message else none
  | _ => none

variable {responder : Responder} {type : PayloadType} {ids left : IdSupply} {response : Envelope}

/-- Before its flag is raised, a response has the flag of the responder, or that of the message that
the provider has returned. -/
theorem mtom_of_encoded {payload : Payload}
    (done : responder.encoded type payload ids = .ok (response, left)) :
    response.mtom = (((Output.value (some payload)).passed? responder.mode).map
      Envelope.mtom).getD responder.mtom := by
  unfold Responder.encoded at done
  split at done
  · next mode =>
    cases payload with
    | message envelope =>
      cases done
      simp [Output.passed?, mode]
    | text | source | data => exact Codec.mtom_of_encodeMessage done nofun
  · next mode =>
    obtain ⟨encoded, converted, made⟩ := exists_of_bind_eq_ok done
    obtain ⟨attachments, same⟩ := Codec.exists_encode_eq converted
    cases made
    have plain : (Output.value (some payload)).passed? responder.mode = none := by
      cases payload <;> simp [Output.passed?, mode]
    rw [plain, same]
    rfl

/-- A response is optimised when its responder is for optimised messages, or when it passes on an
optimised message. -/
theorem mtom_of_respond {output : Output}
    (built : responder.respond type output ids = .ok (response, left)) :
    response.mtom = (responder.mtom || (output.passed? responder.mode).any Envelope.mtom) := by
  rcases output with (_ | payload) | fault
  · cases built
    simp [Output.passed?, Responder.emptyResponse, Envelope.setMtom]
  · simp only [Responder.respond] at built
    split at built
    · next encoded =>
      have flag := mtom_of_encoded encoded
      cases built
      cases raised : responder.mtom with
      | true => rfl
      | false =>
        rw [raised] at flag
        simp only [Bool.false_eq_true, if_false, Bool.false_or]
        rw [flag]
        cases (Output.value (some payload)).passed? responder.mode <;> rfl
    · cases built
  · cases built
    simp [Output.passed?, Responder.faultResponse, Envelope.setMtom]

/-- The response to a failure has the flag of the responder. -/
theorem mtom_respondFailure (responder : Responder) (failure : Failure) :
    (responder.respondFailure failure).mtom = responder.mtom := rfl

/-- The message that an invocation passes on from its provider to the caller. -/
def Session.Passes (session : Session) (dispatcher : Dispatcher) (request : Request)
    (message : Envelope) : Prop :=
  dispatcher.endpoint.mode = .message ∧ ∃ invocation,
    (session.prepare dispatcher request.message).1 = .ok invocation ∧
      (dispatcher.provider.reply invocation.input).outcome = .value (some (.message message))

/-- In message mode a message is always answered by itself. -/
theorem exists_respondValue_eq_ok (mode : responder.mode = .message) (type : PayloadType)
    (message : Envelope) (ids : IdSupply) :
    ∃ response, responder.respondValue type (some (.message message)) ids = .ok (response, ids) := by
  refine ⟨if responder.mtom then message.setMtom true else message, ?_⟩
  simp only [Responder.respondValue, Responder.respond, Responder.encoded, mode]
  rfl

/-- What an output passes on in message mode is a message that the provider has returned. -/
theorem Output.passed?_eq_some_iff {mode : ExchangeMode} {value : Option Payload}
    {message : Envelope} : (Output.value value).passed? mode = some message ↔
      mode = .message ∧ value = some (.message message) := by
  rcases value with _ | (_ | _ | _ | _) <;> cases mode <;> simp [passed?]

/-- The response to the caller is optimised when the binding is one for optimised messages, or when
the provider returns an optimised message in message mode. -/
theorem Session.mtom_invoke_iff (session : Session) (dispatcher : Dispatcher) (request : Request) :
    (session.invoke dispatcher request).1.mtom = true ↔ dispatcher.endpoint.mtom = true ∨
      ∃ message, session.Passes dispatcher request message ∧ message.mtom = true := by
  rw [session.fst_invoke]
  rcases decided : (Responder.ofRequest dispatcher.endpoint request.message).verdict
    dispatcher.provider session.world.ids (session.prepare dispatcher request.message).1 with
    failure | ⟨value, response⟩
  · have nothing {message : Envelope} : ¬session.Passes dispatcher request message := by
      rintro ⟨mode, invocation, prepared, called⟩
      obtain ⟨response, built⟩ := @exists_respondValue_eq_ok
        (.ofRequest dispatcher.endpoint request.message) mode invocation.type message
        session.world.ids
      have succeeds := Responder.verdict_eq_ok_iff.2 ⟨invocation, _, prepared, called, built⟩
      exact nomatch succeeds.symm.trans decided
    rw [Responder.response, mtom_respondFailure]
    constructor
    · exact .inl
    · rintro (flagged | ⟨message, passes, _⟩)
      · exact flagged
      · exact absurd passes nothing
  · obtain ⟨invocation, left, prepared, called, built⟩ := Responder.verdict_eq_ok_iff.1 decided
    have flag := mtom_of_respond (eq_ok_of_mapError built)
    have passes {message : Envelope} : session.Passes dispatcher request message ↔
        (Output.value value).passed? dispatcher.endpoint.mode = some message := by
      rw [Output.passed?_eq_some_iff]
      constructor
      · rintro ⟨mode, other, again, returned⟩
        rw [prepared] at again
        rw [← Except.ok.inj again, called] at returned
        exact ⟨mode, Outcome.value.inj returned⟩
      · rintro ⟨mode, rfl⟩
        exact ⟨mode, invocation, prepared, called⟩
    simp only [passes, Responder.response, flag, Bool.or_eq_true, Option.any_eq_true]
    rfl

/-- A response has the flag of its responder, unless the responder is for plain messages and the
response passes on an optimised message; so has the response to the caller of an invocation. -/
theorem response_flag (responder : Responder) :
    (∀ (type : PayloadType) (output : Output) (ids left : IdSupply) (response : Envelope),
      responder.respond type output ids = .ok (response, left) →
        (response.mtom = responder.mtom ↔ responder.mtom = true ∨
          ∀ message, output.passed? responder.mode = some message → message.mtom = false)) ∧
    ∀ (session : Session) (dispatcher : Dispatcher) (request : Request),
      responder = .ofRequest dispatcher.endpoint request.message →
        ((session.invoke dispatcher request).1.mtom = dispatcher.endpoint.mtom ↔
          dispatcher.endpoint.mtom = true ∨
            ∀ message, session.Passes dispatcher request message → message.mtom = false) := by
  constructor
  · intro type output ids left response built
    rw [mtom_of_respond built]
    cases responder.mtom with
    | true => simp
    | false => simp [Option.any_eq_false]
  · intro session dispatcher request _
    have raised := session.mtom_invoke_iff dispatcher request
    cases flag : dispatcher.endpoint.mtom with
    | true => simpa [flag] using raised
    | false =>
      rw [← Bool.not_eq_true, raised, flag]
      simp

/-- An optimised message goes through a responder for plain ones as it is, and a plain one too. -/
theorem response_flag_passed :
    let responder : Responder := ⟨.message, .soap11, false⟩
    let message := Envelope.new .soap11
    let ids : IdSupply := ⟨toString, 0⟩
    (∃ response, responder.respond .soapMessage (.value (some (.message message))) ids =
        .ok (response, ids) ∧ response.mtom = responder.mtom) ∧
      ∃ response, responder.respond .soapMessage
          (.value (some (.message (message.setMtom true)))) ids = .ok (response, ids) ∧
        response.mtom ≠ responder.mtom := by
  intro responder message ids
  have flag := (response_flag responder).1 .soapMessage
  constructor
  · refine ⟨message, rfl, (flag (.value (some (.message message))) ids ids message rfl).2 ?_⟩
    right
    intro passed same
    cases same
    rfl
  · refine ⟨message.setMtom true, rfl, fun copied => ?_⟩
    rcases (flag (.value (some (.message (message.setMtom true)))) ids ids _ rfl).1 copied with
      optimised | plain
    · cases optimised
    · cases plain _ rfl

/-- The flag of the responder is not the flag of every response. -/
theorem not_mtom_copied :
    ¬∀ (responder : Responder) (type : PayloadType) (output : Output) (ids left : IdSupply)
      (response : Envelope), responder.respond type output ids = .ok (response, left) →
        response.mtom = responder.mtom := by
  intro copied
  have lowered := copied ⟨.message, .soap11, false⟩ .soapMessage
    (.value (some (.message ((Envelope.new .soap11).setMtom true)))) ⟨toString, 0⟩ _ _ rfl
  exact nomatch lowered

end Dispatch

end SoapDispatch
