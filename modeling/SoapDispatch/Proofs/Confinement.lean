import SoapDispatch.Proofs.References
import SoapDispatch.Proofs.ResponseFlag

/-!
# Confinement to the body

In payload mode a provider sees nothing of a message but its body. Of two messages that agree in
their body, and in the one attachment that its first element refers to, it gets the same input, and
both are answered alike, whatever their headers and their other attachments are. Nor does an answer
carry more than a body: it has no headers, and no attachment but the data that an optimised response
is the encoding of.
-/

namespace SoapDispatch

open SoapDispatch.Xml SoapDispatch.Soap

namespace Soap

/-- The content id that the first element of a body refers to. -/
def Body.referredId? (body : Body) : Option String :=
  body.firstElement?.bind fun element =>
    (element.child? "Include").bind fun reference =>
      (reference.tag.attributes.get? "href").map Codec.contentIdOf

/-- Two messages that differ in their headers at most, and in attachments that the first element of
their body does not refer to. -/
structure Envelope.BodyAlike (first second : Envelope) : Prop where
  protocol : first.protocol = second.protocol
  mtom : first.mtom = second.mtom
  content : first.content = second.content
  attachment : ∀ body contentId, first.body? = some body → body.referredId? = some contentId →
    first.attachment? contentId = second.attachment? contentId

end Soap

/-! ## What is read of a message -/

/-- A message that is optimised already is not changed by being marked so. -/
theorem Soap.Envelope.setMtom_of_mtom {envelope : Envelope} (mtom : envelope.mtom = true) :
    envelope.setMtom true = envelope := by
  rw [← mtom]
  rfl

namespace Codec

variable {first second : Envelope}

/-- A reference stands for the same in messages that have the same attached under its content id. -/
theorem resolveInclude_congr {reference : Element} (mtom : first.mtom = second.mtom)
    (attachment : ∀ href, reference.tag.attributes.get? "href" = some href →
      first.attachment? (contentIdOf href) = second.attachment? (contentIdOf href)) :
    resolveInclude reference first = resolveInclude reference second := by
  rw [resolveInclude, resolveInclude, mtom]
  cases named : reference.tag.attributes.get? "href" with
  | none => rfl
  | some href => simp only [attachment href named]

/-- So do the data of a body and its first reference. -/
theorem decodeData_congr {body : Body} (mtom : first.mtom = second.mtom)
    (attachment : ∀ contentId, body.referredId? = some contentId →
      first.attachment? contentId = second.attachment? contentId) :
    decodeData body first = decodeData body second := by
  rw [decodeData, decodeData]
  cases found : body.firstElement? with
  | none => rfl
  | some element =>
    have bytes : binaryBytes element first = binaryBytes element second := by
      rw [binaryBytes, binaryBytes]
      cases child : element.child? "Include" with
      | none => rfl
      | some reference =>
        refine resolveInclude_congr mtom fun href named => attachment _ ?_
        simp [Body.referredId?, found, child, named]
    simp only [binaryData, bytes]

/-- A payload of a body is told from the body, the flag, and what the first reference stands for. -/
theorem decode_congr (type : PayloadType) {body : Body} (mtom : first.mtom = second.mtom)
    (attachment : ∀ contentId, body.referredId? = some contentId →
      first.attachment? contentId = second.attachment? contentId) :
    decode type body first = decode type body second := by
  cases type with
  | text | source | soapMessage => rfl
  | dataSource => rw [decode, decode, decodeData_congr mtom attachment]

end Codec

namespace Dispatch

variable {first second : Envelope}

/-- Messages that agree in their body do so as they are received. -/
theorem bodyAlike_received (alike : first.BodyAlike second) (mtomBinding : Bool) :
    (received mtomBinding first).BodyAlike (received mtomBinding second) := by
  cases mtomBinding with
  | false => exact alike
  | true => exact ⟨alike.protocol, rfl, alike.content, alike.attachment⟩

/-- In payload mode they hold the same input. -/
theorem inputOf_congr (type : PayloadType) (alike : first.BodyAlike second) :
    inputOf .payload type first = inputOf .payload type second := by
  have same : second.body? = first.body? := by
    rw [Envelope.body?, Envelope.body?, alike.content]
  simp only [inputOf, same]
  cases carried : first.body? with
  | none => rfl
  | some body =>
    simp only [Codec.decode_congr type alike.mtom fun contentId =>
      alike.attachment body contentId carried]

variable {message other : Option Envelope}

/-- So they do where there may be no message at all. -/
theorem inputOf?_congr (type : PayloadType) (mtomBinding : Bool)
    (alike : Option.Rel Envelope.BodyAlike message other) :
    inputOf? .payload type (message.map (received mtomBinding)) =
      inputOf? .payload type (other.map (received mtomBinding)) := by
  cases alike with
  | none => rfl
  | some alike => exact inputOf_congr type (bodyAlike_received alike mtomBinding)

/-- They are answered in the same version. -/
theorem ofRequest_congr (endpoint : Endpoint)
    (alike : Option.Rel Envelope.BodyAlike message other) :
    Responder.ofRequest endpoint message = Responder.ofRequest endpoint other := by
  cases alike with
  | none => rfl
  | some alike => simp only [Responder.ofRequest, Option.map_some, alike.protocol]

namespace Session

variable (session : Session) {dispatcher : Dispatcher}

/-- In payload mode the provider gets the same input of them. -/
theorem prepare_congr (mode : dispatcher.endpoint.mode = .payload)
    (alike : Option.Rel Envelope.BodyAlike message other) :
    session.prepare dispatcher message = session.prepare dispatcher other := by
  rw [prepare_eq, prepare_eq, Dispatcher.invocation, Dispatcher.invocation, mode]
  simp only [inputOf?_congr _ _ alike]

/-- In payload mode an invocation comes to the same with either. -/
theorem invoke_congr (mode : dispatcher.endpoint.mode = .payload) {request again : Request}
    (alike : Option.Rel Envelope.BodyAlike request.message again.message) :
    session.invoke dispatcher request = session.invoke dispatcher again := by
  rw [invoke, invoke, ofRequest_congr dispatcher.endpoint alike, session.prepare_congr mode alike]

end Session

/-! ## What is answered -/

/-- The response to an invocation is the encoding of data for an optimised message. -/
def Session.Attaches (session : Session) (dispatcher : Dispatcher) (request : Request)
    (data : DataSource) : Prop :=
  dispatcher.endpoint.mtom = true ∧ ∃ invocation,
    (session.prepare dispatcher request.message).1 = .ok invocation ∧
      invocation.type = .dataSource ∧
        (dispatcher.provider.reply invocation.input).outcome = .value (some (.data data))

section Encoding

variable {type : PayloadType} {payload : Payload} {envelope : Envelope} {ids : IdSupply}

/-- Data that is encoded for an optimised message is attached to it. -/
theorem encode_of_mtom (mtom : envelope.mtom = true) (data : DataSource) (ids : IdSupply) :
    Codec.encode .dataSource (.data data) envelope ids = .ok {
      body := .ofElement
        (Codec.binaryElement data.contentType (Codec.includeElement ids.next).toNode)
      envelope := envelope.attach ids.next data
      ids := ids.rest } := by
  have required : (Payload.data data).require .dataSource = .ok data := rfl
  rw [Codec.encode, required]
  simp only [bind, Except.bind, Codec.encodeData_of_mtom data mtom]

/-- Nothing else that is encoded is. -/
theorem envelope_of_encode {encoded : Codec.Encoded}
    (done : Codec.encode type payload envelope ids = .ok encoded)
    (other : ∀ data, ¬(envelope.mtom = true ∧ type = .dataSource ∧ payload = .data data)) :
    encoded.envelope = envelope := by
  cases type with
  | text | source =>
    obtain ⟨value, _, made⟩ := exists_of_bind_eq_ok done
    cases made
    rfl
  | soapMessage => cases done
  | dataSource =>
    obtain ⟨data, required, made⟩ := exists_of_bind_eq_ok done
    have plain : envelope.mtom = false := by
      rw [← Bool.not_eq_true]
      intro mtom
      exact other data ⟨mtom, rfl, Payload.require_eq_ok required⟩
    rw [Codec.encodeData, plain] at made
    cases made
    rfl

end Encoding

section Answering

variable {session : Session} {dispatcher : Dispatcher} {request : Request}

/-- The response that attaches data, in payload mode. -/
theorem Session.Attaches.fst_invoke {data : DataSource}
    (attaches : session.Attaches dispatcher request data)
    (mode : dispatcher.endpoint.mode = .payload) : (session.invoke dispatcher request).1 =
      ((Responder.ofRequest dispatcher.endpoint request.message).emptyResponse.attach
        session.world.ids.next data).setBody (.ofElement (Codec.binaryElement data.contentType
          (Codec.includeElement session.world.ids.next).toNode)) := by
  obtain ⟨mtom, ⟨type, input⟩, prepared, rfl, called⟩ := attaches
  let responder := Responder.ofRequest dispatcher.endpoint request.message
  have optimised : responder.mtom = true := mtom
  have built : responder.respondValue .dataSource (some (.data data)) session.world.ids =
      .ok ((responder.emptyResponse.attach session.world.ids.next data).setBody
        (.ofElement (Codec.binaryElement data.contentType
          (Codec.includeElement session.world.ids.next).toNode)), session.world.ids.rest) := by
    rw [Responder.respondValue_of_payload mode, encode_of_mtom optimised]
    simp only [optimised, if_true]
    rw [Envelope.setMtom_of_mtom]
    exact optimised
  have answered : responder.verdict dispatcher.provider session.world.ids
      (session.prepare dispatcher request.message).1 = .ok (some (.data data), _) :=
    Responder.verdict_eq_ok_iff.2 ⟨_, _, prepared, called, built⟩
  rw [session.fst_invoke, answered]
  rfl

/-- Every other response in payload mode is a content and nothing else. -/
theorem Session.exists_fst_invoke (mode : dispatcher.endpoint.mode = .payload)
    (none : ∀ data, ¬session.Attaches dispatcher request data) :
    ∃ content, (session.invoke dispatcher request).1 =
      { (Responder.ofRequest dispatcher.endpoint request.message).emptyResponse with
        content } := by
  let responder := Responder.ofRequest dispatcher.endpoint request.message
  rw [session.fst_invoke]
  cases decided : responder.verdict dispatcher.provider session.world.ids
      (session.prepare dispatcher request.message).1 with
  | error failure => exact ⟨.fault failure.toFault, rfl⟩
  | ok result =>
    obtain ⟨value, response⟩ := result
    obtain ⟨invocation, left, prepared, called, built⟩ := Responder.verdict_eq_ok_iff.1 decided
    cases value with
    | none =>
      cases built
      exact ⟨.empty, rfl⟩
    | some payload =>
      rw [Responder.respondValue_of_payload mode] at built
      split at built
      · next encoded done =>
        have plain : encoded.envelope = responder.emptyResponse := by
          refine envelope_of_encode done fun data made => ?_
          obtain ⟨mtom, type, rfl⟩ := made
          exact none data ⟨mtom, invocation, prepared, type, called⟩
        have same := congrArg Prod.fst (Except.ok.inj built)
        simp only [plain] at same
        refine ⟨encoded.body.toContent, same.symm.trans ?_⟩
        split
        · next optimised => exact Envelope.setMtom_of_mtom optimised
        · rfl
      · cases built

/-- The message with data attached refers to nothing but that data. -/
theorem references_attached (envelope : Envelope) (headless : envelope.headers = [])
    (contentType contentId : String) :
    (envelope.setBody (.ofElement (Codec.binaryElement contentType
      (Codec.includeElement contentId).toNode))).references = [Codec.includeElement contentId] := by
  have names : Codec.isIncludeName "pmo:Binary" = false ∧
      Codec.isIncludeName "xop:Include" = true := by decide
  have within : elementsWithin (envelope.setBody (.ofElement (Codec.binaryElement contentType
      (Codec.includeElement contentId).toNode))).bodyNodes =
      [Codec.binaryElement contentType (Codec.includeElement contentId).toNode,
        Codec.includeElement contentId] := rfl
  have headers : (envelope.setBody (.ofElement (Codec.binaryElement contentType
      (Codec.includeElement contentId).toNode))).headers = [] := headless
  rw [Envelope.references_eq, within, headers]
  simp [Codec.binaryElement, Codec.includeElement, names]

/-- In payload mode an invocation is confined to the body. The response has the version of the
request, no headers, and no attachments unless it is the encoding of data for an optimised message:
then it has the data attached, under the id that the only reference in it names. The headers of the
request, and all of its attachments but the one that the first element of its body refers to, make
no difference to the input of the provider, nor to the response. -/
theorem Session.confined_to_body (session : Session) {dispatcher : Dispatcher}
    (mode : dispatcher.endpoint.mode = .payload) :
    (∀ request,
      let response := (session.invoke dispatcher request).1
      response.protocol = (request.message.map Envelope.protocol).getD .soap11 ∧
        response.headers = [] ∧
          (∀ data, session.Attaches dispatcher request data →
            response.attachments = [(session.world.ids.next, data)] ∧
              response.references = [Codec.includeElement session.world.ids.next]) ∧
            ((∀ data, ¬session.Attaches dispatcher request data) → response.attachments = [])) ∧
    ∀ request again : Request, Option.Rel Envelope.BodyAlike request.message again.message →
      session.prepare dispatcher request.message = session.prepare dispatcher again.message ∧
        session.invoke dispatcher request = session.invoke dispatcher again := by
  constructor
  · intro request response
    by_cases attaching : ∃ data, session.Attaches dispatcher request data
    · obtain ⟨data, attaches⟩ := attaching
      have answered := attaches.fst_invoke mode
      refine ⟨congrArg Envelope.protocol answered, congrArg Envelope.headers answered, ?_,
        fun none => absurd attaches (none data)⟩
      intro other again
      have shown := again.fst_invoke mode
      exact ⟨congrArg Envelope.attachments shown,
        (congrArg Envelope.references shown).trans (references_attached _ rfl _ _)⟩
    · have none (data : DataSource) : ¬session.Attaches dispatcher request data :=
        fun attaches => attaching ⟨data, attaches⟩
      obtain ⟨content, answered⟩ := session.exists_fst_invoke mode none
      exact ⟨congrArg Envelope.protocol answered, congrArg Envelope.headers answered,
        fun data attaches => absurd attaches (none data),
        fun _ => congrArg Envelope.attachments answered⟩
  · intro request again alike
    exact ⟨session.prepare_congr mode alike, session.invoke_congr mode alike⟩

/-- A header and an attachment that nothing refers to are neither seen nor answered. -/
theorem Session.confined_to_body_laden :
    let data : DataSource := ⟨"text/plain", [104, 105]⟩
    let dispatcher : Dispatcher :=
      { provider := .typed .dataSource "Store" .value
        endpoint := { operation := "Store", binding := some mtomBinding12 } }
    let session : Session := { world := { ids := ⟨toString, 0⟩ } }
    let bare := (Envelope.ofBody .soap12 (.ofElement
      (Codec.binaryElement "text/plain" (Codec.includeElement "own").toNode))).attach "own" data
    let laden := (bare.attach "other" data).addHeader (.ofName "Security" [])
    dispatcher.endpoint.mode = .payload ∧
      Option.Rel Envelope.BodyAlike (some laden) (some bare) ∧
      session.Attaches dispatcher { message := laden } data ∧
      (session.invoke dispatcher { message := laden }).1.attachments =
        [(session.world.ids.next, data)] ∧
      session.invoke dispatcher { message := laden } =
        session.invoke dispatcher { message := bare } := by
  intro data dispatcher session bare laden
  have alike : laden.BodyAlike bare := by
    refine ⟨rfl, rfl, rfl, fun body contentId known referred => ?_⟩
    cases known
    cases referred
    rfl
  have attaches : session.Attaches dispatcher { message := laden } data :=
    ⟨rfl, ⟨.dataSource, some (.data data)⟩, rfl, rfl, rfl⟩
  have confined := session.confined_to_body (show dispatcher.endpoint.mode = .payload from rfl)
  exact ⟨rfl, .some alike, attaches,
    ((confined.1 { message := laden }).2.2.1 data attaches).1,
    (confined.2 { message := laden } { message := bare } (.some alike)).2⟩

end Answering

end Dispatch

end SoapDispatch
