import SoapDispatch.Proofs.Reachable

/-!
# Round trips of payloads

A value that is put into a response and read back from it as a request is the same value, whatever
the version of SOAP and the flag for optimised messages. Text is the exception: blank text is no
value at all, and text that is a document comes back in the form in which it is written.
-/

namespace SoapDispatch

open SoapDispatch.Soap SoapDispatch.Xml

/-! ## Texts -/

namespace Codec

/-- A text is stored as the element that it is the document of, or else as it stands. -/
theorem encodeText_cases (text : String) :
    (∃ element, Xml.parse text = .ok element ∧ encodeText text = .ofElement element) ∨
      encodeText text = .ofText text := by
  unfold encodeText
  split
  · rcases Xml.parse text with cause | element
    · exact .inr rfl
    · exact .inl ⟨element, rfl, rfl⟩
  · exact .inr rfl

/-- An element that a text is stored as is the one that the text is the document of. -/
theorem parse_of_encodeText {text : String} {element : Element}
    (stored : encodeText text = .ofElement element) : Xml.parse text = .ok element := by
  rcases encodeText_cases text with ⟨other, parsed, known⟩ | known
  · have same : [other.toNode] = [element.toNode] :=
      congrArg Body.nodes (known.symm.trans stored)
    obtain ⟨tag, children⟩ := element
    obtain ⟨otherTag, otherChildren⟩ := other
    cases same
    exact parsed
  · have same := congrArg Body.nodes (known.symm.trans stored)
    cases blank : isBlankNode (.text text) <;>
      simp [Body.ofText, Body.ofNodes, Body.ofElement, Element.toNode, blank] at same

/-- Parsing and writing leaves alone the form in which the document of a text is written. -/
def Settled (text : String) : Prop :=
  ∀ element, Xml.parse text = .ok element →
    ∃ again, Xml.parse (element.write false false) = .ok again ∧
      again.write false false = element.write false false

/-- A blank text is stored as nothing. -/
theorem encodeText_of_isBlank {text : String} (blank : Text.isBlank text = true) :
    encodeText text = {} := by
  have plain : startsLikeDocument text = false := by
    simp [startsLikeDocument, (Text.trimStart_eq_empty_iff text).2 blank]
  simp [encodeText, plain, Body.ofText, Body.ofNodes, isBlankNode, blank]

/-- A text that is stored as it stands is one node, unless it is blank. -/
theorem ofText_of_not_isBlank {text : String} (visible : Text.isBlank text = false) :
    Body.ofText text = { nodes := [.text text] } := by
  simp [Body.ofText, Body.ofNodes, isBlankNode, visible]

/-- The text of one text node is that text. -/
theorem decodeText_text (text : String) : decodeText { nodes := [.text text] } = text := by
  simp [decodeText, writtenNode, String.join]

/-- The text of one element is its written form. -/
theorem decodeText_ofElement (element : Element) :
    decodeText (.ofElement element) = element.write false false := by
  simp [decodeText, Body.ofElement, Element.toNode, writtenNode, String.join]

/-- The written form of an element is not blank. -/
theorem not_isBlank_write (element : Element) :
    Text.isBlank (element.write false false) = false := by
  have start : (element.write false false).toList.head? = some '<' := by
    rw [Element.write, String.toList_ofList, Element.writeChars, if_neg (by simp), Element.toNode,
      writeNode, lead_false, List.nil_append]
    rfl
  obtain ⟨rest, shape⟩ := List.head?_eq_some_iff.1 start
  have visible : Text.isBlankChar '<' = false := by decide
  rw [Text.isBlank, shape, List.all_cons, visible, Bool.false_and]

end Codec

/-! ## Data -/

namespace Codec

section Data

variable (data : DataSource)

/-- The content id of a reference is the one that it was made for. -/
theorem contentIdOf_cid (contentId : String) : contentIdOf ("cid:" ++ contentId) = contentId := by
  have scheme : ("cid:" ++ contentId).toList = 'c' :: 'i' :: 'd' :: ':' :: contentId.toList := by
    rw [String.toList_append]
    rfl
  rw [contentIdOf, scheme]
  exact String.ofList_toList

/-- A reference in an optimised message stands for what is attached under the content id that it
names. -/
theorem resolveInclude_of_href {reference : Element} {envelope : Envelope} {contentId : String}
    (href : reference.tag.attributes.get? "href" = some ("cid:" ++ contentId))
    (mtom : envelope.mtom = true) (attached : envelope.attachment? contentId = some data) :
    resolveInclude reference envelope = .ok data.bytes := by
  simp only [resolveInclude, mtom, href, contentIdOf_cid, attached]
  rfl

/-- What holds of every digit and of the padding holds of all that base64 is written with. -/
theorem forall_mem_encodeChars {law : Char → Prop}
    (digits : ∀ value < 64, law (Base64.digit value)) (padding : law '=') (bytes : List UInt8) :
    ∀ c ∈ Base64.encodeChars bytes, law c := by
  have digit {value : Nat} (small : value < 64) : law (Base64.digit value) := digits value small
  fun_induction Base64.encodeChars bytes with
  | case1 => simp
  | case2 first =>
    have bound := first.toNat_lt
    simp [Base64.digits, padding, digit (show first.toNat / 4 < 64 by omega),
      digit (show first.toNat % 4 * 16 < 64 by omega)]
  | case3 first second =>
    have firstBound := first.toNat_lt
    have secondBound := second.toNat_lt
    simp [Base64.digits, padding, digit (show first.toNat / 4 < 64 by omega),
      digit (show first.toNat % 4 * 16 + second.toNat / 16 < 64 by omega),
      digit (show second.toNat % 16 * 4 < 64 by omega)]
  | case4 first second third rest inductionHypothesis =>
    have firstBound := first.toNat_lt
    have secondBound := second.toNat_lt
    have thirdBound := third.toNat_lt
    refine List.forall_mem_append.2 ⟨?_, inductionHypothesis⟩
    simp [Base64.digits, digit (show first.toNat / 4 < 64 by omega),
      digit (show first.toNat % 4 * 16 + second.toNat / 16 < 64 by omega),
      digit (show second.toNat % 16 * 4 + third.toNat / 64 < 64 by omega),
      digit (show third.toNat % 64 < 64 by omega)]

/-- Nothing that base64 is written with is blank. -/
theorem not_isBlankChar_of_mem_encodeChars (bytes : List UInt8) :
    ∀ c ∈ Base64.encodeChars bytes, Text.isBlankChar c = false :=
  forall_mem_encodeChars (by decide) (by decide) bytes

/-- Bytes are read from the base64 that they are written as. -/
theorem decode?_removeBlanks_encode (bytes : List UInt8) :
    Base64.decode? (Text.removeBlanks (Base64.encode bytes)).toList = some bytes := by
  have kept : (Base64.encodeChars bytes).filter (fun c => !Text.isBlankChar c) =
      Base64.encodeChars bytes :=
    List.filter_eq_self.2 fun c member => by
      simp [not_isBlankChar_of_mem_encodeChars bytes c member]
  rw [Text.removeBlanks, Base64.encode, String.toList_ofList, String.toList_ofList, kept,
    Base64.decode?_encodeChars]

/-- The element that data is put into is one that carries data. -/
theorem isBinaryName_binaryElement (contentType : String) (holder : Node) :
    isBinaryName (binaryElement contentType holder).tag.name = true := by
  have plain : isBinaryName "pmo:Binary" = true := by decide
  exact plain

/-- The data in a `Binary` element is what is read from its holder, with the content type that the
element names. -/
theorem decodeData_of_named {binary : Element} {contentType : String}
    (name : isBinaryName binary.tag.name = true)
    (named : binary.tag.attributes.get? "contentType" = some contentType) (envelope : Envelope) :
    decodeData (.ofElement binary) envelope =
      (binaryBytes binary envelope).map fun bytes => ⟨contentType, bytes⟩ := by
  have found : (Body.ofElement binary).firstElement? = some binary := rfl
  simp only [decodeData, found, name, if_true, binaryData, named, Option.getD_some]
  cases binaryBytes binary envelope <;> rfl

/-- So it is for the element that data is put into. -/
theorem decodeData_binaryElement (contentType : String) (holder : Node) (envelope : Envelope) :
    decodeData (.ofElement (binaryElement contentType holder)) envelope =
      (binaryBytes (binaryElement contentType holder) envelope).map
        fun bytes => ⟨contentType, bytes⟩ := by
  refine decodeData_of_named (isBinaryName_binaryElement contentType holder) ?_ envelope
  simp [binaryElement, Attributes.get?]

/-- The reference in the element that is put around it is found. -/
theorem child?_binaryElement (contentType contentId : String) :
    (binaryElement contentType (includeElement contentId).toNode).child? "Include" =
      some (includeElement contentId) := by
  have name : (includeElement contentId).localName = "Include" := by
    have split : localName "xop:Include" = "Include" := by decide
    exact split
  exact (Element.child?_ofName_cons "" "Include" _ []).trans (if_pos name)

/-- A reference to what is attached to an optimised message stands for it. -/
theorem resolveInclude_includeElement {envelope : Envelope} {contentId : String}
    (mtom : envelope.mtom = true) (attached : envelope.attachment? contentId = some data) :
    resolveInclude (includeElement contentId) envelope = .ok data.bytes := by
  refine resolveInclude_of_href data ?_ mtom attached
  simp [includeElement, Attributes.get?]

/-- Data is read from an element that refers to it, once it is attached. -/
theorem decodeData_reference {envelope : Envelope} {contentId : String}
    (mtom : envelope.mtom = true) (attached : envelope.attachment? contentId = some data) :
    decodeData (.ofElement (binaryElement data.contentType (includeElement contentId).toNode))
      envelope = .ok data := by
  rw [decodeData_binaryElement, binaryBytes, child?_binaryElement]
  simp only [resolveInclude_includeElement data mtom attached]
  rfl

/-- Data is read from an element that holds it in base64, whatever the message. -/
theorem decodeData_text (envelope : Envelope) :
    decodeData (.ofElement (binaryElement data.contentType (.text (Base64.encode data.bytes))))
      envelope = .ok data := by
  have holder (text : String) :
      (binaryElement data.contentType (.text text)).child? "Include" = none := rfl
  have held (text : String) :
      (binaryElement data.contentType (.text text)).text? = some text := by
    simp [binaryElement, Element.text?, Node.characters?, String.join]
  rw [decodeData_binaryElement, binaryBytes, holder, held]
  simp only [Option.getD_some, decode?_removeBlanks_encode]
  rfl

/-- An optimised message has data attached, and refers to it. -/
theorem encodeData_of_mtom {envelope : Envelope} (mtom : envelope.mtom = true) (ids : IdSupply) :
    encodeData data envelope ids =
      (binaryElement data.contentType (includeElement ids.next).toNode,
        envelope.attach ids.next data, ids.rest) := by
  rw [encodeData, if_pos mtom]

/-- A message that is not optimised is left alone, and data is written. -/
theorem encodeData_of_plain {envelope : Envelope} (plain : envelope.mtom = false)
    (ids : IdSupply) : encodeData data envelope ids =
      (binaryElement data.contentType (.text (Base64.encode data.bytes)), envelope, ids) := by
  rw [encodeData, plain, if_neg Bool.false_ne_true]

/-- Data is read from the element that carries it in a message. -/
theorem decodeData_encodeData {envelope other : Envelope} (ids : IdSupply)
    (mtom : other.mtom = envelope.mtom)
    (attachments : other.attachments = (encodeData data envelope ids).2.1.attachments) :
    decodeData (.ofElement (encodeData data envelope ids).1) other = .ok data := by
  cases optimised : envelope.mtom with
  | true =>
    rw [encodeData_of_mtom data optimised] at attachments ⊢
    have attached : other.attachment? ids.next = some data := by
      rw [Envelope.attachment?, attachments]
      exact Dictionary.get?_insert_self _ _ _
    exact decodeData_reference data (mtom.trans optimised) attached
  | false =>
    rw [encodeData_of_plain data optimised]
    exact decodeData_text data other

end Data

end Codec

namespace Dispatch

/-! ## Responses that are received -/

/-- The input that a provider gets from a response that is received through the same binding. -/
def Responder.echo (responder : Responder) (type : PayloadType) (value : Option Payload)
    (ids : IdSupply) : Except DispatchError (Option Payload) :=
  match responder.respond type (.value value) ids with
  | .error error => .error error
  | .ok (envelope, _) => inputOf responder.mode type (received responder.mtom envelope)

/-- Raising the flag of a response changes nothing once it is received. -/
theorem received_ite (mtom : Bool) (envelope : Envelope) :
    received mtom (if mtom then envelope.setMtom true else envelope) = received mtom envelope := by
  cases mtom <;> rfl

/-- What is received has the content it was sent with. -/
theorem body?_received (mtom : Bool) (envelope : Envelope) :
    (received mtom envelope).body? = envelope.body? := by
  cases mtom <;> rfl

/-- A body that is put into an envelope is there, unless it is empty. -/
theorem body?_setBody (envelope : Envelope) (body : Body) :
    (envelope.setBody body).body? = if body.isEmpty then none else some body := by
  cases filled : body.isEmpty <;>
    simp [Envelope.body?, Envelope.setBody, Body.toContent, filled]

/-! ## Bodies -/

section Payload

variable (protocol : Protocol) (mtom : Bool) (ids : IdSupply)

/-- In payload mode, no value comes back as none. -/
theorem echo_payload_none {type : PayloadType} (bodily : type ≠ .soapMessage) :
    (⟨.payload, protocol, mtom⟩ : Responder).echo type none ids = .ok none := by
  cases mtom <;> cases type <;> first | rfl | exact absurd rfl bodily

/-- In payload mode, whole messages are refused before the message is looked at. -/
theorem echo_payload_soapMessage :
    (⟨.payload, protocol, mtom⟩ : Responder).echo .soapMessage none ids =
      .error Codec.messageModeOnly := by
  cases mtom <;> rfl

/-- In payload mode, what has been encoded as a body is decoded from that body. -/
theorem echo_payload {type : PayloadType} {payload : Payload} {encoded : Codec.Encoded}
    (converted : Codec.encode type payload ((Envelope.new protocol).setMtom mtom) ids =
      .ok encoded) (bodily : type ≠ .soapMessage) :
    (⟨.payload, protocol, mtom⟩ : Responder).echo type (some payload) ids =
      if encoded.body.isEmpty then .ok none
      else (Codec.decode type encoded.body
        (received mtom (encoded.envelope.setBody encoded.body))).map some := by
  have built : (⟨.payload, protocol, mtom⟩ : Responder).encoded type payload ids =
      .ok (encoded.envelope.setBody encoded.body, encoded.ids) := by
    simp only [Responder.encoded, Responder.emptyResponse, converted]
    rfl
  simp only [Responder.echo, Responder.respond, built, received_ite, inputOf, if_neg bodily,
    body?_received, body?_setBody]
  cases filled : encoded.body.isEmpty with
  | true => rfl
  | false => simp [filled]

/-- An element comes back as it is. -/
theorem echo_source (element : Element) :
    (⟨.payload, protocol, mtom⟩ : Responder).echo .source (some (.source element)) ids =
      .ok (some (.source element)) := by
  have converted : Codec.encode .source (.source element) ((Envelope.new protocol).setMtom mtom)
      ids = .ok ⟨.ofElement element, (Envelope.new protocol).setMtom mtom, ids⟩ := rfl
  rw [echo_payload protocol mtom ids converted (by decide)]
  rfl

/-- Data comes back as it is. -/
theorem echo_data (data : DataSource) :
    (⟨.payload, protocol, mtom⟩ : Responder).echo .dataSource (some (.data data)) ids =
      .ok (some (.data data)) := by
  let envelope := (Envelope.new protocol).setMtom mtom
  have converted : Codec.encode .dataSource (.data data) envelope ids =
      .ok ⟨.ofElement (Codec.encodeData data envelope ids).1,
        (Codec.encodeData data envelope ids).2.1, (Codec.encodeData data envelope ids).2.2⟩ := rfl
  have sent : Codec.decodeData (.ofElement (Codec.encodeData data envelope ids).1)
      (received mtom ((Codec.encodeData data envelope ids).2.1.setBody
        (.ofElement (Codec.encodeData data envelope ids).1))) = .ok data := by
    refine Codec.decodeData_encodeData data ids ?_ ?_ <;> cases mtom <;> rfl
  have filled : (Body.ofElement (Codec.encodeData data envelope ids).1).isEmpty = false := rfl
  rw [echo_payload protocol mtom ids converted (by decide)]
  simp only [filled, Codec.decode, sent]
  rfl

/-- A text comes back as its body tells it, if the body holds anything. -/
theorem echo_text (text : String) :
    (⟨.payload, protocol, mtom⟩ : Responder).echo .text (some (.text text)) ids =
      if (Codec.encodeText text).isEmpty then .ok none
      else .ok (some (.text (Codec.decodeText (Codec.encodeText text)))) := by
  have converted : Codec.encode .text (.text text) ((Envelope.new protocol).setMtom mtom) ids =
      .ok ⟨Codec.encodeText text, (Envelope.new protocol).setMtom mtom, ids⟩ := rfl
  rw [echo_payload protocol mtom ids converted (by decide)]
  rfl

variable {text : String}

/-- A blank text comes back as no value. -/
theorem echo_text_of_isBlank (blank : Text.isBlank text = true) :
    (⟨.payload, protocol, mtom⟩ : Responder).echo .text (some (.text text)) ids = .ok none := by
  rw [echo_text, Codec.encodeText_of_isBlank blank]
  rfl

/-- A text that is stored as it stands comes back as it is. -/
theorem echo_text_of_text (visible : Text.isBlank text = false)
    (stored : Codec.encodeText text = .ofText text) :
    (⟨.payload, protocol, mtom⟩ : Responder).echo .text (some (.text text)) ids =
      .ok (some (.text text)) := by
  rw [echo_text, stored, Codec.ofText_of_not_isBlank visible, Codec.decodeText_text]
  rfl

/-- A text that is stored as an element comes back as that element is written. -/
theorem echo_text_of_element {element : Element}
    (stored : Codec.encodeText text = .ofElement element) :
    (⟨.payload, protocol, mtom⟩ : Responder).echo .text (some (.text text)) ids =
      .ok (some (.text (element.write false false))) := by
  rw [echo_text, stored, Codec.decodeText_ofElement]
  rfl

/-- What has come back of a settled text comes back again. -/
theorem echo_text_again (left : IdSupply) (settled : Codec.Settled text) :
    ∃ value, (⟨.payload, protocol, mtom⟩ : Responder).echo .text (some (.text text)) ids =
        .ok value ∧
      (⟨.payload, protocol, mtom⟩ : Responder).echo .text value left = .ok value := by
  rcases Codec.encodeText_cases text with ⟨element, parsed, stored⟩ | stored
  · refine ⟨_, echo_text_of_element protocol mtom ids stored, ?_⟩
    rcases Codec.encodeText_cases (element.write false false) with ⟨again, reparsed, kept⟩ | kept
    · obtain ⟨other, known, same⟩ := settled element parsed
      have unique : again = other := Except.ok.inj (reparsed.symm.trans known)
      rw [echo_text_of_element protocol mtom left kept, unique, same]
    · exact echo_text_of_text protocol mtom left (Codec.not_isBlank_write element) kept
  · cases visible : Text.isBlank text with
    | true =>
      exact ⟨none, echo_text_of_isBlank protocol mtom ids visible,
        echo_payload_none protocol mtom left (by decide)⟩
    | false =>
      exact ⟨_, echo_text_of_text protocol mtom ids visible stored,
        echo_text_of_text protocol mtom left visible stored⟩

end Payload

/-! ## Whole messages -/

section Message

variable (protocol : Protocol) (mtom : Bool) (ids : IdSupply)

/-- In message mode, no value comes back as none. -/
theorem echo_message_none (type : PayloadType) :
    (⟨.message, protocol, mtom⟩ : Responder).echo type none ids = .ok none := by
  cases mtom <;> rfl

/-- A message that carries anything comes back with the flag raised if the binding raises it. -/
theorem echo_message {envelope : Envelope} (carries : envelope.hasMessage = true) :
    (⟨.message, protocol, mtom⟩ : Responder).echo .soapMessage (some (.message envelope)) ids =
      .ok (some (.message { envelope with mtom := envelope.mtom || mtom })) := by
  have arrived := received_eq mtom envelope
  have still : (received mtom envelope).hasMessage = true := by
    rw [arrived]
    exact carries
  simp only [Responder.echo, Responder.respond, Responder.encoded, received_ite, inputOf, still,
    if_true]
  rw [arrived]
  rfl

/-- In message mode, an element is encoded as the message it is. -/
theorem encoded_source (element : Element) :
    (⟨.message, protocol, mtom⟩ : Responder).encoded .source (.source element) ids =
      (Codec.orMalformed (Codec.messageOfBody (.ofElement element) mtom [])).map
        fun envelope => (envelope, ids) := by
  have converted : Codec.encode .source (.source element) ((Envelope.new protocol).setMtom mtom)
      ids = .ok ⟨.ofElement element, (Envelope.new protocol).setMtom mtom, ids⟩ := rfl
  simp only [Responder.encoded, Codec.encodeMessage, converted]
  change (Codec.orMalformed (Codec.messageOfBody (.ofElement element) mtom [])).bind _ = _
  cases Codec.orMalformed (Codec.messageOfBody (.ofElement element) mtom []) <;> rfl

/-- An element that is a message makes that message, with the flag of the binding. -/
theorem respond_source_of_ofElement {element : Element} {envelope : Envelope}
    (read : Envelope.ofElement element = .ok envelope) :
    (⟨.message, protocol, mtom⟩ : Responder).respond .source (.value (some (.source element))) ids =
      .ok ({ envelope with mtom, attachments := [] }, ids) := by
  have body : Codec.messageOfBody (.ofElement element) mtom [] =
      .ok { envelope with mtom, attachments := [] } := by
    have found : (Body.ofElement element).firstElement? = some element := rfl
    simp only [Codec.messageOfBody, found, read]
  have encoded : (⟨.message, protocol, mtom⟩ : Responder).encoded .source (.source element) ids =
      .ok ({ envelope with mtom, attachments := [] }, ids) := by
    rw [encoded_source, body]
    rfl
  simp only [Responder.respond, encoded]
  cases mtom <;> rfl

/-- Only an element that is a message makes one. -/
theorem exists_of_respond_source {element : Element} {result : Envelope × IdSupply}
    (made : (⟨.message, protocol, mtom⟩ : Responder).respond .source
      (.value (some (.source element))) ids = .ok result) :
    ∃ envelope, Envelope.ofElement element = .ok envelope := by
  cases read : Envelope.ofElement element with
  | ok envelope => exact ⟨envelope, rfl⟩
  | error cause =>
    have body : Codec.messageOfBody (.ofElement element) mtom [] = .error (.noEnvelope cause) := by
      have found : (Body.ofElement element).firstElement? = some element := rfl
      simp only [Codec.messageOfBody, found, read]
    simp only [Responder.respond, encoded_source, body] at made
    exact nomatch made

/-- An element that is a message comes back as an element that makes the same message. -/
theorem echo_message_source {element : Element} {envelope : Envelope} {left : IdSupply}
    (made : (⟨.message, protocol, mtom⟩ : Responder).respond .source
      (.value (some (.source element))) ids = .ok (envelope, left))
    (carries : envelope.hasMessage = true) :
    ∃ back : Element, inputOf .message .source (received mtom envelope) =
        .ok (some (.source back)) ∧
      ∀ supply, (⟨.message, protocol, mtom⟩ : Responder).respond .source
        (.value (some (.source back))) supply = .ok (envelope, supply) := by
  obtain ⟨known, read⟩ := exists_of_respond_source protocol mtom ids made
  have same : envelope = { known with mtom, attachments := [] } := by
    rw [respond_source_of_ofElement protocol mtom ids read] at made
    exact (congrArg Prod.fst (Except.ok.inj made)).symm
  have tree : envelope.toElement = known.toElement := by
    rw [same]
    rfl
  have still : (received mtom envelope).hasMessage = true := by
    cases mtom <;> exact carries
  have received : (received mtom envelope).toElement = envelope.toElement := by
    cases mtom <;> rfl
  refine ⟨envelope.toElement, ?_, fun supply => ?_⟩
  · simp only [inputOf, still, if_true, Codec.decodeMessage, received]
    rfl
  · rw [tree, respond_source_of_ofElement protocol mtom supply
      (Envelope.ofElement_toElement_of_ofElement read), same]

end Message

/-! ## Both modes -/

/-- A value that is put into a response is read back from it: in payload mode elements and data as
they are and text up to the form in which it is written, in message mode messages up to their flag
and elements up to the message that they make. No value is read back as none, except that payload
mode refuses whole messages even then. -/
theorem marshalling_round_trip (protocol : Protocol) (mtom : Bool) (ids : IdSupply) :
    let payload : Responder := ⟨.payload, protocol, mtom⟩
    let message : Responder := ⟨.message, protocol, mtom⟩
    (∀ element, payload.echo .source (some (.source element)) ids =
      .ok (some (.source element))) ∧
    (∀ data, payload.echo .dataSource (some (.data data)) ids = .ok (some (.data data))) ∧
    (∀ text,
      (Codec.encodeText text = .ofText text ∨
        ∃ element, Codec.encodeText text = .ofElement element) ∧
      (Text.isBlank text = true → payload.echo .text (some (.text text)) ids = .ok none) ∧
      (Text.isBlank text = false → Codec.encodeText text = .ofText text →
        payload.echo .text (some (.text text)) ids = .ok (some (.text text))) ∧
      (∀ element, Codec.encodeText text = .ofElement element →
        Xml.parse text = .ok element ∧
          payload.echo .text (some (.text text)) ids =
            .ok (some (.text (element.write false false)))) ∧
      (Codec.Settled text → ∀ left, ∃ value,
        payload.echo .text (some (.text text)) ids = .ok value ∧
          payload.echo .text value left = .ok value)) ∧
    (∀ envelope : Envelope, envelope.hasMessage = true →
      message.echo .soapMessage (some (.message envelope)) ids =
        .ok (some (.message { envelope with mtom := envelope.mtom || mtom }))) ∧
    (∀ element envelope left,
      message.respond .source (.value (some (.source element))) ids = .ok (envelope, left) →
        envelope.hasMessage = true →
          ∃ back, inputOf .message .source (received mtom envelope) = .ok (some (.source back)) ∧
            ∀ supply, message.respond .source (.value (some (.source back))) supply =
              .ok (envelope, supply)) ∧
    (∀ type, message.echo type none ids = .ok none) ∧
    (∀ type, type ≠ .soapMessage → payload.echo type none ids = .ok none) ∧
    payload.echo .soapMessage none ids = .error Codec.messageModeOnly := by
  refine ⟨echo_source protocol mtom ids, echo_data protocol mtom ids, ?text, ?whole, ?tree,
    echo_message_none protocol mtom ids, ?none, echo_payload_soapMessage protocol mtom ids⟩
  case text =>
    intro text
    refine ⟨?stored, echo_text_of_isBlank protocol mtom ids, echo_text_of_text protocol mtom ids,
      ?element, ?again⟩
    case stored =>
      rcases Codec.encodeText_cases text with ⟨element, _, stored⟩ | stored
      · exact .inr ⟨element, stored⟩
      · exact .inl stored
    case element =>
      intro element stored
      exact ⟨Codec.parse_of_encodeText stored, echo_text_of_element protocol mtom ids stored⟩
    case again =>
      intro settled left
      exact echo_text_again protocol mtom ids left settled
  case whole =>
    intro envelope carries
    exact echo_message protocol mtom ids carries
  case tree =>
    intro element envelope left made carries
    exact echo_message_source protocol mtom ids made carries
  case none =>
    intro type bodily
    exact echo_payload_none protocol mtom ids bodily

/-- Blank text, plain text, a document, a message, and an element that is a message. -/
theorem marshalling_round_trip_ping :
    let payload : Responder := ⟨.payload, .soap12, true⟩
    let message : Responder := ⟨.message, .soap12, true⟩
    let ids : IdSupply := ⟨toString, 0⟩
    let ping : Envelope := .ofBody .soap11 (.ofText "ping")
    payload.echo .text (some (.text " ")) ids = .ok none ∧
      payload.echo .text (some (.text "ping")) ids = .ok (some (.text "ping")) ∧
      payload.echo .text (some (.text "<ping/>")) ids = .ok (some (.text "<ping />")) ∧
      payload.echo .text (some (.text "<ping />")) ids = .ok (some (.text "<ping />")) ∧
      message.echo .soapMessage (some (.message ping)) ids =
        .ok (some (.message { ping with mtom := true })) ∧
      ∃ back, inputOf .message .source (received true { ping with mtom := true }) =
          .ok (some (.source back)) ∧
        message.respond .source (.value (some (.source back))) ids =
          .ok ({ ping with mtom := true }, ids) := by
  intro payload message ids ping
  let element : Element := ⟨{ name := "ping" }, []⟩
  have parsed : Xml.parse "<ping/>" = .ok element := by
    obtain ⟨last, ran, plain, finished⟩ : ∃ last, ({} : Reader).run { chars := "<ping/>".toList } =
        .ok last ∧ last.encoding = none ∧ last.finish = .ok element := by
      iterate 6 rw [Reader.run_of_step rfl rfl rfl rfl]
      exact ⟨_, Reader.run_of_isEmpty rfl, rfl, rfl⟩
    rw [parse_of_run rfl rfl ran plain, finished]
  have reparsed : Xml.parse "<ping />" = .ok element := by
    obtain ⟨last, ran, plain, finished⟩ : ∃ last, ({} : Reader).run { chars := "<ping />".toList } =
        .ok last ∧ last.encoding = none ∧ last.finish = .ok element := by
      iterate 7 rw [Reader.run_of_step rfl rfl rfl rfl]
      exact ⟨_, Reader.run_of_isEmpty rfl, rfl, rfl⟩
    rw [parse_of_run rfl rfl ran plain, finished]
  have written : element.write false false = "<ping />" := by decide
  have stored : Codec.encodeText "<ping/>" = .ofElement element := by
    have begins : Codec.startsLikeDocument "<ping/>" = true := by decide
    simp only [Codec.encodeText, begins, if_true, parsed]
  have settled : Codec.Settled "<ping/>" := by
    intro other known
    have same : other = element := Except.ok.inj (known.symm.trans parsed)
    exact ⟨element, by rw [same, written, reparsed], by rw [same]⟩
  obtain ⟨_, _, text, whole, tree, _⟩ := marshalling_round_trip .soap12 true ids
  have sent := ((text "<ping/>").2.2.2.1 element stored).2
  obtain ⟨value, first, again⟩ := (text "<ping/>").2.2.2.2 settled ids
  have known : value = some (.text "<ping />") := by
    rw [← written]
    exact Except.ok.inj (first.symm.trans sent)
  have plain : Codec.encodeText "ping" = .ofText "ping" := by
    have begins : Codec.startsLikeDocument "ping" = false := by decide
    simp [Codec.encodeText, begins]
  have read : Envelope.ofElement ping.toElement = .ok ping := by
    have sound : ping.Sound := Envelope.sound_setBody _ (Body.clean_ofNodes _)
    refine sound.ofElement_toElement fun body known child member => ?_
    have nodes : body.nodes = [.text "ping"] := congrArg Body.nodes (Option.some.inj known).symm
    rw [nodes] at member
    exact absurd member List.not_mem_nil
  obtain ⟨back, received, made⟩ := tree ping.toElement { ping with mtom := true } ids
    (respond_source_of_ofElement .soap12 true ids read) rfl
  exact ⟨(text " ").2.1 (by decide), (text "ping").2.2.1 (by decide) plain,
    written ▸ sent, known ▸ again, whole ping rfl, back, received, made ids⟩

/-- No value is not always read back as none: payload mode refuses whole messages. -/
theorem not_echo_none : ¬ ∀ (mode : ExchangeMode) (type : PayloadType) (protocol : Protocol)
    (mtom : Bool) (ids : IdSupply),
    (⟨mode, protocol, mtom⟩ : Responder).echo type none ids = .ok none := by
  intro all
  exact nomatch all .payload .soapMessage .soap11 false ⟨toString, 0⟩

end Dispatch

end SoapDispatch
