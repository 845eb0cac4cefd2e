import SoapDispatch.Dispatch.Input
import SoapDispatch.Dispatch.Response
import SoapDispatch.Proofs.TreeForm

/-!
# Envelopes that operations build

`Envelope.Reachable` are the envelopes that can be built by the public operations on envelopes, by
reading elements and documents, by the codecs of payloads, and by the marshalling of requests and
responses. All of them are sound, so the element of each one tells everything but its flag and its
attachments.
-/

namespace SoapDispatch

open SoapDispatch.Xml SoapDispatch.Soap SoapDispatch.Dispatch

/-! ## Results -/

section Results

variable {ε ε' α β : Type} {result : Except ε α} {value : β}

/-- A chain of steps gives a value when its first step does and the rest does. -/
theorem exists_of_bind_eq_ok {next : α → Except ε β} (done : result >>= next = .ok value) :
    ∃ first, result = .ok first ∧ next first = .ok value := by
  cases result with
  | error cause => exact nomatch done
  | ok first => exact ⟨first, rfl, done⟩

/-- A mapped result is a value when the result is. -/
theorem exists_of_map_eq_ok {change : α → β} (done : result.map change = .ok value) :
    ∃ first, result = .ok first ∧ change first = value := by
  cases result with
  | error cause => exact nomatch done
  | ok first => exact ⟨first, rfl, Except.ok.inj done⟩

/-- Other words for the errors of a result leave its values alone. -/
theorem eq_ok_of_mapError {change : ε → ε'} {first : α}
    (done : result.mapError change = .ok first) : result = .ok first := by
  cases result with
  | error cause => exact nomatch done
  | ok first => exact congrArg Except.ok (Except.ok.inj done)

/-- A chain of steps fails with its first step, or with the rest. -/
theorem bind_eq_error_iff {next : α → Except ε β} {cause : ε} :
    result >>= next = .error cause ↔
      result = .error cause ∨ ∃ first, result = .ok first ∧ next first = .error cause := by
  cases result <;> simp [bind, Except.bind]

/-- Steps taken for one thing after the other all give values when each of them does. -/
theorem mapM_eq_ok_iff {step : α → Except ε β} {items : List α} {values : List β} :
    items.mapM step = .ok values ↔ items.map step = values.map .ok := by
  induction items generalizing values with
  | nil => cases values <;> simp [pure, Except.pure]
  | cons item rest inductionHypothesis =>
    rw [List.mapM_cons, List.map_cons]
    constructor
    · intro done
      obtain ⟨value, own, tail⟩ := exists_of_bind_eq_ok done
      obtain ⟨others, later, made⟩ := exists_of_bind_eq_ok tail
      cases made
      rw [own, inductionHypothesis.1 later, List.map_cons]
    · intro each
      obtain ⟨value, others, rfl, own, later⟩ := List.map_eq_cons_iff.1 each.symm
      rw [← own, inductionHypothesis.2 later.symm]
      rfl

/-- So each of them gives its value. -/
theorem eq_ok_of_mapM {step : α → Except ε β} {items : List α} {values : List β} (fallback : β)
    (all : items.mapM step = .ok values) :
    ∀ item ∈ items, step item = .ok ((step item).toOption.getD fallback) := by
  intro item member
  obtain ⟨value, _, own⟩ := List.mem_map.1 (mapM_eq_ok_iff.1 all ▸ List.mem_map_of_mem member)
  rw [← own]
  rfl

/-- And these are all the values. -/
theorem eq_map_of_mapM {step : α → Except ε β} {items : List α} {values : List β} (fallback : β)
    (all : items.mapM step = .ok values) :
    values = items.map fun item => (step item).toOption.getD fallback := by
  have each := congrArg (List.map fun result => result.toOption.getD fallback)
    (mapM_eq_ok_iff.1 all)
  rw [List.map_map, List.map_map] at each
  exact (each.trans (List.map_id values)).symm

/-- Steps taken for one thing after the other fail with the first of them that fails. -/
theorem mapM_eq_error_iff {step : α → Except ε β} {items : List α} {cause : ε} :
    items.mapM step = .error cause ↔ ∃ before item after, items = before ++ item :: after ∧
      (∀ earlier ∈ before, ∃ value, step earlier = .ok value) ∧ step item = .error cause := by
  induction items with
  | nil => simp [pure, Except.pure]
  | cons first rest inductionHypothesis =>
    rw [List.mapM_cons, bind_eq_error_iff]
    constructor
    · rintro (failed | ⟨value, own, tail⟩)
      · exact ⟨[], first, rest, rfl, fun _ member => absurd member List.not_mem_nil, failed⟩
      · obtain later | ⟨_, _, made⟩ := bind_eq_error_iff.1 tail
        · obtain ⟨before, item, after, rfl, earlier, failed⟩ := inductionHypothesis.1 later
          exact ⟨first :: before, item, after, rfl,
            List.forall_mem_cons.2 ⟨⟨value, own⟩, earlier⟩, failed⟩
        · cases made
    · rintro ⟨before, item, after, split, earlier, failed⟩
      cases before with
      | nil =>
        obtain ⟨rfl, rfl⟩ := List.cons.inj split
        exact .inl failed
      | cons head before =>
        obtain ⟨rfl, rfl⟩ := List.cons.inj split
        obtain ⟨⟨value, own⟩, others⟩ := List.forall_mem_cons.1 earlier
        have later := inductionHypothesis.2 ⟨before, item, after, rfl, others, failed⟩
        exact .inr ⟨value, own, bind_eq_error_iff.2 (.inl later)⟩

/-- Steps that give the same results give the same when they are taken one after the other. -/
theorem mapM_congr {step other : α → Except ε β} {items : List α}
    (same : ∀ item ∈ items, step item = other item) : items.mapM step = items.mapM other := by
  rw [← Function.id_comp step, ← Function.id_comp other, ← List.mapM_map, ← List.mapM_map,
    List.map_congr_left same]

/-- Steps that all give values do so when they are taken one after the other. -/
theorem exists_mapM_eq_ok {step : α → Except ε β} {items : List α}
    (each : ∀ item ∈ items, ∃ value, step item = .ok value) :
    ∃ values, items.mapM step = .ok values := by
  cases all : items.mapM step with
  | ok values => exact ⟨values, rfl⟩
  | error cause =>
    obtain ⟨before, item, after, rfl, _, failed⟩ := mapM_eq_error_iff.1 all
    obtain ⟨value, done⟩ := each item (List.mem_append_right _ List.mem_cons_self)
    cases failed.symm.trans done

end Results

/-- A payload of the required type is the value that is required. -/
theorem Payload.require_eq_ok {type : PayloadType} {payload : Payload} {value : type.Value}
    (required : payload.require type = .ok value) : payload = .ofValue type value := by
  unfold require at required
  split at required
  · next known =>
    cases required
    cases type <;> cases payload <;> cases known <;> rfl
  · exact nomatch required

/-! ## Bodies -/

theorem Soap.Body.clean_ofElement (element : Element) : (ofElement element).Clean := by
  intro node member
  rw [List.mem_singleton.1 member]
  rfl

namespace Codec

theorem clean_encodeText (text : String) : (encodeText text).Clean := by
  unfold encodeText
  split
  · split
    · exact Body.clean_ofElement _
    · exact Body.clean_ofNodes _
  · exact Body.clean_ofNodes _

/-- Data that is attached leaves the content alone. -/
theorem content_encodeData (data : DataSource) (envelope : Envelope) (ids : IdSupply) :
    (encodeData data envelope ids).2.1.content = envelope.content := by
  unfold encodeData
  split <;> rfl

/-- A converter makes a clean body, and leaves the content of the envelope alone. -/
theorem encode_eq_ok {type : PayloadType} {payload : Payload} {envelope : Envelope}
    {ids : IdSupply} {encoded : Encoded} (done : encode type payload envelope ids = .ok encoded) :
    encoded.body.Clean ∧ encoded.envelope.content = envelope.content := by
  cases type with
  | text =>
    obtain ⟨text, _, made⟩ := exists_of_bind_eq_ok done
    cases made
    exact ⟨clean_encodeText text, rfl⟩
  | source =>
    obtain ⟨element, _, made⟩ := exists_of_bind_eq_ok done
    cases made
    exact ⟨Body.clean_ofElement element, rfl⟩
  | soapMessage => exact nomatch done
  | dataSource =>
    obtain ⟨data, _, made⟩ := exists_of_bind_eq_ok done
    have same := Except.ok.inj made
    exact same ▸ ⟨Body.clean_ofElement _, content_encodeData data envelope ids⟩

/-- A converter reads payloads of its own type. -/
theorem payloadType_of_decode {type : PayloadType} {body : Body} {envelope : Envelope}
    {payload : Payload} (done : decode type body envelope = .ok payload) :
    payload.payloadType = type := by
  cases type with
  | text =>
    cases done
    rfl
  | soapMessage => exact nomatch done
  | source | dataSource =>
    obtain ⟨_, _, made⟩ := exists_of_map_eq_ok done
    cases made
    rfl

end Codec

/-! ## Envelopes -/

namespace Soap

/-- The bodies that can be built without an envelope. -/
inductive Body.Made : Body → Prop where
  | new : Made {}
  | ofNodes (nodes : List Node) : Made (.ofNodes nodes)
  | ofElement (element : Element) : Made (.ofElement element)
  | ofText (text : String) : Made (.ofText text)
  | encode {type : PayloadType} {payload : Payload} {envelope : Envelope} {ids : IdSupply}
      {encoded : Codec.Encoded} (done : Codec.encode type payload envelope ids = .ok encoded) :
      Made encoded.body

theorem Body.Made.clean {body : Body} (made : body.Made) : body.Clean := by
  cases made with
  | new => simp [Clean]
  | ofNodes nodes => exact clean_ofNodes nodes
  | ofElement element => exact clean_ofElement element
  | ofText text => exact clean_ofNodes _
  | encode done => exact (Codec.encode_eq_ok done).1

namespace Envelope

/-- The envelopes that can be built by any sequence of operations. -/
inductive Reachable : Envelope → Prop where
  | new (protocol : Protocol) : Reachable (.new protocol)
  | ofBody (protocol : Protocol) {body : Body} (made : body.Made) :
      Reachable (.ofBody protocol body)
  | ofFault (protocol : Protocol) (fault : Fault) : Reachable (.ofFault protocol fault)
  | setBody {envelope : Envelope} {body : Body} (built : Reachable envelope) (made : body.Made) :
      Reachable (envelope.setBody body)
  /-- The body of one envelope is put into another one. -/
  | moveBody {envelope other : Envelope} {body : Body} (built : Reachable envelope)
      (otherBuilt : Reachable other) (known : other.body? = some body) :
      Reachable (envelope.setBody body)
  | setFault {envelope : Envelope} (built : Reachable envelope) (fault : Fault) :
      Reachable (envelope.setFault fault)
  | addHeader {envelope : Envelope} (built : Reachable envelope) (block : Element) :
      Reachable (envelope.addHeader block)
  | attach {envelope : Envelope} (built : Reachable envelope) (contentId : String)
      (data : DataSource) : Reachable (envelope.attach contentId data)
  | setMtom {envelope : Envelope} (built : Reachable envelope) (mtom : Bool) :
      Reachable (envelope.setMtom mtom)
  | ofElement {root : Element} {envelope : Envelope}
      (read : Envelope.ofElement root = .ok envelope) : Reachable envelope
  | parse {bytes : List UInt8} {envelope : Envelope}
      (read : Envelope.parse bytes = .ok envelope) : Reachable envelope
  /-- A converter attaches the data of a payload. -/
  | encode {type : PayloadType} {payload : Payload} {envelope : Envelope} {ids : IdSupply}
      {encoded : Codec.Encoded} (built : Reachable envelope)
      (done : Codec.encode type payload envelope ids = .ok encoded) : Reachable encoded.envelope
  /-- A converter makes a whole message of a payload. -/
  | encodeMessage {type : PayloadType} {payload : Payload} {protocol : Protocol} {mtom : Bool}
      {ids left : IdSupply} {envelope : Envelope}
      (built : ∀ message, payload = .message message → Reachable message)
      (done : Codec.encodeMessage type payload protocol mtom ids = .ok (envelope, left)) :
      Reachable envelope
  /-- A converter gives a message as a payload. -/
  | decodeMessage {type : PayloadType} {envelope message : Envelope} (built : Reachable envelope)
      (done : Codec.decodeMessage type envelope = .ok (.message message)) : Reachable message
  | received {envelope : Envelope} (built : Reachable envelope) (mtomBinding : Bool) :
      Reachable (Dispatch.received mtomBinding envelope)
  /-- A request is marshalled. -/
  | input {mode : ExchangeMode} {type : PayloadType} {envelope message : Envelope}
      (built : Reachable envelope)
      (done : inputOf mode type envelope = .ok (some (.message message))) : Reachable message
  /-- A response is marshalled. -/
  | respond {responder : Responder} {type : PayloadType} {output : Output} {ids left : IdSupply}
      {envelope : Envelope}
      (built : ∀ message, output = .value (some (.message message)) → Reachable message)
      (done : responder.respond type output ids = .ok (envelope, left)) : Reachable envelope

/-- Soundness is a matter of the content alone. -/
theorem Sound.of_content {envelope other : Envelope} (sound : envelope.Sound)
    (same : other.content = envelope.content) : other.Sound :=
  fun body known => sound body (same ▸ known)

theorem Sound.setMtom {envelope : Envelope} (sound : envelope.Sound) (mtom : Bool) :
    (envelope.setMtom mtom).Sound :=
  sound.of_content rfl

theorem sound_new (protocol : Protocol) : (new protocol).Sound :=
  fun _ known => nomatch known

theorem sound_setFault (envelope : Envelope) (fault : Fault) : (envelope.setFault fault).Sound :=
  fun _ known => nomatch known

theorem sound_setBody (envelope : Envelope) {body : Body} (clean : body.Clean) :
    (envelope.setBody body).Sound :=
  sound_of_toContent clean rfl

/-- What is read from a document is sound. -/
theorem sound_of_parse {bytes : List UInt8} {envelope : Envelope}
    (read : parse bytes = .ok envelope) : envelope.Sound := by
  unfold parse at read
  split at read
  · exact sound_of_ofElement read
  · exact nomatch read

/-- A message that is made of a body is sound. -/
theorem sound_of_messageOfBody {body : Body} {mtom : Bool} {attachments : Attachments}
    {envelope : Envelope} (done : Codec.messageOfBody body mtom attachments = .ok envelope) :
    envelope.Sound := by
  unfold Codec.messageOfBody at done
  split at done
  · exact nomatch done
  · split at done
    · exact nomatch done
    · next read =>
      cases done
      exact (sound_of_ofElement read).of_content rfl

/-- A message that data is the document of is sound. -/
theorem sound_of_messageOfData {data : DataSource} {mtom : Bool} {ids left : IdSupply}
    {envelope : Envelope} (done : Codec.messageOfData data mtom ids = .ok (envelope, left)) :
    envelope.Sound := by
  unfold Codec.messageOfData at done
  split at done
  · exact nomatch done
  · next read =>
    simp only [] at done
    split at done
    · obtain ⟨⟨nodes, _, _⟩, _, made⟩ := exists_of_bind_eq_ok done
      cases made
      exact sound_setBody _ (Body.clean_ofNodes nodes)
    · cases done
      exact (sound_of_parse read).setMtom _

/-- A message that a payload is encoded as is sound, if the payload is when it is a message. -/
theorem sound_of_encodeMessage {type : PayloadType} {payload : Payload} {protocol : Protocol}
    {mtom : Bool} {ids left : IdSupply} {envelope : Envelope}
    (sound : ∀ message, payload = .message message → message.Sound)
    (done : Codec.encodeMessage type payload protocol mtom ids = .ok (envelope, left)) :
    envelope.Sound := by
  have ofBody {body : Body} {attachments : Attachments} {message : Envelope}
      (made : Codec.orMalformed (Codec.messageOfBody body mtom attachments) = .ok message) :
      message.Sound := sound_of_messageOfBody (eq_ok_of_mapError made)
  cases type with
  | soapMessage =>
    obtain ⟨message, required, made⟩ := exists_of_bind_eq_ok done
    have carried := sound message (Payload.require_eq_ok required)
    cases made
    split
    · exact carried.setMtom true
    · exact carried
  | dataSource =>
    obtain ⟨data, _, made⟩ := exists_of_bind_eq_ok done
    exact sound_of_messageOfData (eq_ok_of_mapError made)
  | text =>
    obtain ⟨encoded, _, rest⟩ := exists_of_bind_eq_ok done
    obtain ⟨message, known, made⟩ := exists_of_bind_eq_ok rest
    cases made
    exact ofBody known
  | source =>
    obtain ⟨encoded, _, rest⟩ := exists_of_bind_eq_ok done
    obtain ⟨message, known, made⟩ := exists_of_bind_eq_ok rest
    cases made
    exact ofBody known

/-- A response to a payload is sound before its flag is raised. -/
theorem sound_of_encoded {responder : Responder} {type : PayloadType} {payload : Payload}
    {ids left : IdSupply} {envelope : Envelope}
    (sound : ∀ message, payload = .message message → message.Sound)
    (done : responder.encoded type payload ids = .ok (envelope, left)) : envelope.Sound := by
  unfold Responder.encoded at done
  split at done
  · split at done
    · cases done
      exact sound _ rfl
    · exact sound_of_encodeMessage sound done
  · obtain ⟨encoded, converted, made⟩ := exists_of_bind_eq_ok done
    cases made
    exact sound_setBody _ (Codec.encode_eq_ok converted).1

/-- A response is sound, if what it carries is when it is a message. -/
theorem sound_of_respond {responder : Responder} {type : PayloadType} {output : Output}
    {ids left : IdSupply} {envelope : Envelope}
    (sound : ∀ message, output = .value (some (.message message)) → message.Sound)
    (done : responder.respond type output ids = .ok (envelope, left)) : envelope.Sound := by
  unfold Responder.respond at done
  split at done
  · cases done
    exact (sound_setFault _ _).setMtom _
  · cases done
    exact (sound_new _).setMtom _
  · split at done
    · next encoded =>
      have carried := sound_of_encoded (fun message known => sound message (by rw [known])) encoded
      cases done
      split
      · exact carried.setMtom true
      · exact carried
    · exact nomatch done

/-- What a converter reads from a body is no message. -/
theorem ne_of_decode {type : PayloadType} {body : Body} {envelope message : Envelope} :
    Codec.decode type body envelope ≠ .ok (.message message) := by
  intro done
  obtain rfl := Codec.payloadType_of_decode done
  exact nomatch done

/-- A message that a converter gives as a payload is the message it was given. -/
theorem eq_of_decodeMessage {type : PayloadType} {envelope message : Envelope}
    (done : Codec.decodeMessage type envelope = .ok (.message message)) : message = envelope := by
  cases type with
  | soapMessage =>
    cases done
    rfl
  | dataSource =>
    obtain ⟨_, _, made⟩ := exists_of_map_eq_ok done
    exact nomatch made
  | text => exact nomatch done
  | source =>
    have read : Codec.decode .source (.ofElement envelope.toElement) envelope =
      .ok (.message message) := done
    exact absurd read ne_of_decode

/-- The input of a provider is read from the whole message, or from its body. -/
theorem decoded_of_inputOf {mode : ExchangeMode} {type : PayloadType} {envelope : Envelope}
    {payload : Payload} (done : inputOf mode type envelope = .ok (some payload)) :
    Codec.decodeMessage type envelope = .ok payload ∨
      ∃ body, envelope.body? = some body ∧ Codec.decode type body envelope = .ok payload := by
  unfold inputOf at done
  split at done
  · split at done
    · obtain ⟨read, known, same⟩ := exists_of_map_eq_ok done
      exact .inl (Option.some.inj same ▸ known)
    · exact nomatch done
  · split at done
    · exact nomatch done
    · split at done
      · next body present =>
        split at done
        · exact nomatch done
        · obtain ⟨read, known, same⟩ := exists_of_map_eq_ok done
          exact .inr ⟨body, present, Option.some.inj same ▸ known⟩
      · exact nomatch done

/-- A message that is the input of a provider is the message that was received. -/
theorem eq_of_inputOf {mode : ExchangeMode} {type : PayloadType} {envelope message : Envelope}
    (done : inputOf mode type envelope = .ok (some (.message message))) : message = envelope := by
  rcases decoded_of_inputOf done with whole | ⟨body, _, read⟩
  · exact eq_of_decodeMessage whole
  · exact absurd read ne_of_decode

/-- Every envelope that can be built is sound. -/
theorem Reachable.sound {envelope : Envelope} (built : envelope.Reachable) : envelope.Sound := by
  induction built with
  | new protocol => exact sound_new protocol
  | ofBody protocol made => exact sound_setBody _ made.clean
  | ofFault protocol fault => exact sound_setFault _ fault
  | setBody _ made => exact sound_setBody _ made.clean
  | @moveBody envelope other body _ _ known _ otherSound =>
    refine sound_setBody _ (otherSound body ?_).2
    unfold body? at known
    split at known
    · next carried => rw [carried, Option.some.inj known]
    · exact nomatch known
  | setFault _ fault => exact sound_setFault _ fault
  | addHeader _ block sound => exact sound.of_content rfl
  | attach _ contentId data sound => exact sound.of_content rfl
  | setMtom _ mtom sound => exact sound.setMtom mtom
  | ofElement read => exact sound_of_ofElement read
  | parse read => exact sound_of_parse read
  | encode _ done sound => exact sound.of_content (Codec.encode_eq_ok done).2
  | encodeMessage _ done sound => exact sound_of_encodeMessage sound done
  | decodeMessage _ done sound => exact eq_of_decodeMessage done ▸ sound
  | received _ mtomBinding sound =>
    unfold Dispatch.received
    split
    · exact sound.setMtom true
    · exact sound
  | input _ done sound => exact eq_of_inputOf done ▸ sound
  | respond _ done sound => exact sound_of_respond sound done

/-- The element of an envelope that can be built is read as that envelope without its flag and its
attachments, unless its body has an element that is taken for a fault; and whatever is read from an
element is read from its own element again. -/
theorem tree_round_trip :
    (∀ envelope : Envelope, envelope.Reachable →
      (∀ body, envelope.body? = some body → ∀ element ∈ elementsOf body.nodes,
        element.localName ≠ "Fault") →
      ofElement envelope.toElement = .ok { envelope with mtom := false, attachments := [] }) ∧
    ∀ (root : Element) (envelope : Envelope), ofElement root = .ok envelope →
      ofElement envelope.toElement = .ok envelope :=
  ⟨fun _ built faultFree => built.sound.ofElement_toElement faultFree,
    fun _ _ read => ofElement_toElement_of_ofElement read⟩

/-- A message with a header block that is itself called a header, and with an attachment. -/
theorem tree_round_trip_header :
    let envelope := (((ofBody .soap12 (.ofText "ping")).addHeader (.ofText "Header" "")).setMtom
      true).attach "id" ⟨"text/plain", []⟩
    let read := { envelope with mtom := false, attachments := [] }
    envelope.Reachable ∧ ofElement envelope.toElement = .ok read ∧
      ofElement read.toElement = .ok read := by
  intro envelope read
  have built : envelope.Reachable :=
    .attach (.setMtom (.addHeader (.ofBody .soap12 (.ofText "ping")) _) true) _ _
  have faultFree : ∀ body, envelope.body? = some body → ∀ element ∈ elementsOf body.nodes,
      element.localName ≠ "Fault" := by
    intro body known element member
    have nodes : body.nodes = [.text "ping"] := congrArg Body.nodes (Option.some.inj known).symm
    rw [nodes] at member
    exact absurd member List.not_mem_nil
  have first := tree_round_trip.1 envelope built faultFree
  exact ⟨built, first, tree_round_trip.2 _ read first⟩

end Envelope

end Soap

end SoapDispatch
