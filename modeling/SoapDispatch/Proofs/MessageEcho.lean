import SoapDispatch.Proofs.References
import SoapDispatch.Proofs.RoundTrip

/-!
# Echoes of whole messages

In message mode a payload stands for a whole message, and every type carries the message in a way
of its own: as it is, as its element, as the text of its document, or as the bytes of its document.
This theory compares what becomes of a message that is read as a payload and made a message of
again.

A message without references becomes the same as text and as data: what is read of its document.
Attachments travel only with whole messages and, made part of the document, with data; a message
with references comes back without what they refer to when it is carried by its element or its text.
-/

namespace SoapDispatch.Codec

open SoapDispatch.Xml SoapDispatch.Soap

/-- Reads a message as a payload of a type and makes a message of it again. -/
def echoMessage (type : PayloadType) (envelope : Envelope) (protocol : Protocol) (mtom : Bool)
    (ids : IdSupply) : Except DispatchError (Envelope × IdSupply) := do
  let payload ← decodeMessage type envelope
  encodeMessage type payload protocol mtom ids

section Ways

variable {envelope : Envelope} (protocol : Protocol) (mtom : Bool) (ids : IdSupply)

/-- A document is a message if its root is the element of one. -/
theorem messageOfBody_ofElement (root : Element) (mtom : Bool) (attachments : Attachments) :
    messageOfBody (.ofElement root) mtom attachments =
      ((Envelope.ofElement root).mapError .noEnvelope).map fun read =>
        { read with mtom, attachments } := by
  have found : (Body.ofElement root).firstElement? = some root := rfl
  simp only [messageOfBody, found]
  cases Envelope.ofElement root <;> rfl

/-- A document is no message if its root is not the element of one. -/
theorem messageOfBody_of_error {root : Element} {cause : EnvelopeError}
    (refused : Envelope.ofElement root = .error cause) (attachments : Attachments) :
    messageOfBody (.ofElement root) mtom attachments = .error (.noEnvelope cause) := by
  rw [messageOfBody_ofElement, refused]
  rfl

/-- A message that an element carries has no flag and no attachments of its own. -/
theorem messageOfBody_of_ok {root : Element} {read : Envelope}
    (known : Envelope.ofElement root = .ok read) (attachments : Attachments) :
    messageOfBody (.ofElement root) mtom attachments = .ok { read with mtom, attachments } := by
  rw [messageOfBody_ofElement, known]
  rfl

/-- Texts and elements become messages by the bodies that they become. -/
theorem encodeMessage_eq {type : PayloadType} {payload : Payload} {body : Body}
    (inBody : type = .text ∨ type = .source)
    (encoded : encode type payload ((Envelope.new protocol).setMtom mtom) ids =
      .ok ⟨body, (Envelope.new protocol).setMtom mtom, ids⟩) :
    encodeMessage type payload protocol mtom ids =
      (orMalformed (messageOfBody body mtom [])).map (·, ids) := by
  have bare : ((Envelope.new protocol).setMtom mtom).attachments = [] := rfl
  rcases inBody with rfl | rfl
  all_goals
    simp only [encodeMessage, encoded, bind, Except.bind, bare]
    cases orMalformed (messageOfBody body mtom []) <;> rfl

/-- A whole message comes back as it is, and may become optimised. -/
theorem echoMessage_soapMessage (envelope : Envelope) :
    echoMessage .soapMessage envelope protocol mtom ids =
      .ok (if mtom then envelope.setMtom true else envelope, ids) := rfl

/-- By its element a message comes back as it is read from that, without attachments. -/
theorem echoMessage_source (envelope : Envelope) :
    echoMessage .source envelope protocol mtom ids =
      (orMalformed (messageOfBody (.ofElement envelope.toElement) mtom [])).map (·, ids) := by
  have sent : decodeMessage .source envelope = .ok (.source envelope.toElement) := rfl
  have encoded : encode .source (.source envelope.toElement)
      ((Envelope.new protocol).setMtom mtom) ids =
        .ok ⟨.ofElement envelope.toElement, (Envelope.new protocol).setMtom mtom, ids⟩ := rfl
  simp only [echoMessage, sent, bind, Except.bind]
  exact encodeMessage_eq protocol mtom ids (.inr rfl) encoded

/-- By its text a message comes back as the text is taken, without attachments. -/
theorem echoMessage_text (envelope : Envelope) :
    echoMessage .text envelope protocol mtom ids =
      (orMalformed (messageOfBody (encodeText (envelope.toElement.write false false)) mtom [])).map
        (·, ids) := by
  have sent : decodeMessage .text envelope =
      .ok (.text (envelope.toElement.write false false)) := by
    rw [← decodeText_ofElement]
    rfl
  have encoded : encode .text (.text (envelope.toElement.write false false))
      ((Envelope.new protocol).setMtom mtom) ids =
        .ok ⟨encodeText (envelope.toElement.write false false),
          (Envelope.new protocol).setMtom mtom, ids⟩ := rfl
  simp only [echoMessage, sent, bind, Except.bind]
  exact encodeMessage_eq protocol mtom ids (.inl rfl) encoded

/-- The written form of an envelope starts with the name of its root. -/
theorem exists_writeChars_toElement (envelope : Envelope) :
    ∃ rest, envelope.toElement.writeChars false false = '<' :: 's' :: rest := by
  have name : envelope.toElement.tag.writtenName = 's' :: "oapenv:Envelope".toList := by
    have plain : envelope.toElement.tag.writtenName = (envelopeName "Envelope").toList := rfl
    rw [plain]
    decide
  rw [Element.writeChars, if_neg Bool.false_ne_true, Element.toNode, writeNode, Tag.writeOpening,
    name, lead_false]
  exact ⟨_, rfl⟩

/-- The text of an envelope is taken for a document if its document can be read. -/
theorem encodeText_write_toElement (envelope : Envelope) :
    encodeText (envelope.toElement.write false false) =
      match readDocument (Text.Utf8.encode envelope.toXml) with
      | .ok root => .ofElement root
      | .error _ => .ofText (envelope.toElement.write false false) := by
  obtain ⟨rest, front⟩ := exists_writeChars_toElement envelope
  have visible : Text.isBlankChar '<' = false := by decide
  have starts : startsLikeDocument (envelope.toElement.write false false) = true := by
    rw [startsLikeDocument, Element.write, front, Text.trimStart, String.toList_ofList,
      String.toList_ofList, List.dropWhile_cons_of_neg (by simp [visible])]
    rfl
  rw [encodeText, if_pos starts, parse_write front]
  rfl

/-- By its text a message comes back as it is read from its document. -/
theorem echoMessage_text_of_ok {root : Element}
    (read : readDocument (Text.Utf8.encode envelope.toXml) = .ok root) :
    echoMessage .text envelope protocol mtom ids =
      (orMalformed (messageOfBody (.ofElement root) mtom [])).map (·, ids) := by
  rw [echoMessage_text, encodeText_write_toElement, read]

/-- If its document cannot be read, a message does not come back by its text. -/
theorem echoMessage_text_of_error {cause : ReadError}
    (refused : readDocument (Text.Utf8.encode envelope.toXml) = .error cause) :
    echoMessage .text envelope protocol mtom ids =
      .error (.malformedPayload .noEnvelopeDocument) := by
  rw [echoMessage_text, encodeText_write_toElement, refused,
    ofText_of_not_isBlank (not_isBlank_write envelope.toElement)]
  rfl

/-- By the bytes of a document that stands for it a message comes back as they are read. -/
theorem echoMessage_data {document : Element} (alone : selfContained envelope = .ok document) :
    echoMessage .dataSource envelope protocol mtom ids =
      orMalformed (messageOfData ⟨envelope.protocol.contentType,
        Text.Utf8.encode (document.write true false)⟩ mtom ids) := by
  have sent : decodeMessage .dataSource envelope = .ok (.data ⟨envelope.protocol.contentType,
      Text.Utf8.encode (document.write true false)⟩) := by
    rw [decodeMessage, messageData, alone]
    rfl
  rw [echoMessage, sent]
  rfl

end Ways

/-! ## Messages without references -/

/-- A message without references stands for itself. -/
theorem selfContained_of_free {envelope : Envelope} (free : envelope.references = []) :
    selfContained envelope = .ok envelope.toElement := by
  rw [Envelope.references, List.filter_eq_nil_iff] at free
  have none : outermost isIncludeName envelope.toElement.children = [] :=
    outermost_eq_nil_iff.2 fun element member => by simpa using free element member
  rw [selfContained, inlineNodes_of_free envelope none]
  rfl

/-- A message that is not optimised is read of data as it stands there. -/
theorem messageOfData_false (data : DataSource) (ids : IdSupply) :
    messageOfData data false ids =
      ((Envelope.parse data.bytes).mapError .noMessage).map fun read =>
        (read.setMtom false, ids) := by
  rw [messageOfData]
  cases Envelope.parse data.bytes <;> rfl

/-- A message read of an element has no flag and no attachments, and the element is a document of
it. -/
theorem messageOfBody_of_read {root : Element} {read : Envelope}
    (known : Envelope.ofElement root = .ok read) : read.mtom = false ∧ read.attachments = [] ∧
      messageOfBody (.ofElement root) false [] = .ok read := by
  have bare : read.bare = read := (Envelope.ofElement_eq_ok known).1
  refine ⟨congrArg Envelope.mtom bare.symm, congrArg Envelope.attachments bare.symm, ?_⟩
  rw [messageOfBody_of_ok false known]
  exact congrArg Except.ok bare

section Agreement

variable {envelope : Envelope} (protocol : Protocol) (ids : IdSupply)

/-- By its bytes a message without references comes back as it is read of its document. -/
theorem echoMessage_data_of_free (free : envelope.references = []) :
    echoMessage .dataSource envelope protocol false ids =
      orMalformed (((Envelope.parse (Text.Utf8.encode envelope.toXml)).mapError .noMessage).map
        fun read => (read.setMtom false, ids)) := by
  rw [echoMessage_data protocol false ids (selfContained_of_free free), messageOfData_false]
  rfl

/-- A message without references comes back by its text and by its bytes as it is read of its
document, or by neither. -/
theorem document_views_agree (free : envelope.references = []) :
    (∃ read, Envelope.parse (Text.Utf8.encode envelope.toXml) = .ok read ∧
      read.mtom = false ∧ read.attachments = [] ∧
      echoMessage .text envelope protocol false ids = .ok (read, ids) ∧
      echoMessage .dataSource envelope protocol false ids = .ok (read, ids)) ∨
    ∃ cause told, Envelope.parse (Text.Utf8.encode envelope.toXml) = .error cause ∧
      echoMessage .text envelope protocol false ids = .error (.malformedPayload told) ∧
      echoMessage .dataSource envelope protocol false ids =
        .error (.malformedPayload (.noMessage cause)) := by
  have data := echoMessage_data_of_free protocol ids free
  cases written : readDocument (Text.Utf8.encode envelope.toXml) with
  | error cause =>
    have parsed : Envelope.parse (Text.Utf8.encode envelope.toXml) = .error (.document cause) := by
      rw [Envelope.parse, written]
    rw [parsed] at data
    exact .inr ⟨_, _, parsed, echoMessage_text_of_error protocol false ids written, data⟩
  | ok root =>
    have parsed : Envelope.parse (Text.Utf8.encode envelope.toXml) = Envelope.ofElement root := by
      rw [Envelope.parse, written]
    have text := echoMessage_text_of_ok protocol false ids written
    rw [parsed] at data
    cases known : Envelope.ofElement root with
    | error cause =>
      rw [known] at data
      rw [messageOfBody_of_error false known] at text
      exact .inr ⟨_, _, parsed.trans known, text, data⟩
    | ok read =>
      obtain ⟨flag, attachments, carried⟩ := messageOfBody_of_read known
      have unset : read.setMtom false = read := by rw [Envelope.setMtom, ← flag]
      have echoed : echoMessage .dataSource envelope protocol false ids =
          .ok (read.setMtom false, ids) := by
        rw [data, known]
        rfl
      rw [carried] at text
      exact .inl ⟨read, parsed.trans known, flag, attachments, text, unset ▸ echoed⟩

/-- A message that can be read of its element comes back by it as it is read. -/
theorem echoMessage_source_of_ok {read : Envelope}
    (known : Envelope.ofElement envelope.toElement = .ok read) :
    echoMessage .source envelope protocol false ids = .ok (read, ids) := by
  rw [echoMessage_source, (messageOfBody_of_read known).2.2]
  rfl

/-- A message that cannot be read of its element does not come back by it. -/
theorem echoMessage_source_of_error {cause : EnvelopeError}
    (refused : Envelope.ofElement envelope.toElement = .error cause) :
    echoMessage .source envelope protocol false ids =
      .error (.malformedPayload (.noEnvelope cause)) := by
  rw [echoMessage_source, messageOfBody_of_error false refused]
  rfl

end Agreement

/-- A message without references comes back by its text and by its bytes as it is read of its
document, or by neither; and by its element as it is read of that. -/
theorem message_views_agree (envelope : Envelope) (protocol : Protocol) (ids : IdSupply)
    (free : envelope.references = []) :
    ((∃ read, Envelope.parse (Text.Utf8.encode envelope.toXml) = .ok read ∧
        read.mtom = false ∧ read.attachments = [] ∧
        echoMessage .text envelope protocol false ids = .ok (read, ids) ∧
        echoMessage .dataSource envelope protocol false ids = .ok (read, ids)) ∨
      ∃ cause told, Envelope.parse (Text.Utf8.encode envelope.toXml) = .error cause ∧
        echoMessage .text envelope protocol false ids = .error (.malformedPayload told) ∧
        echoMessage .dataSource envelope protocol false ids =
          .error (.malformedPayload (.noMessage cause))) ∧
    (∀ read, Envelope.ofElement envelope.toElement = .ok read →
      echoMessage .source envelope protocol false ids = .ok (read, ids)) ∧
    ∀ cause, Envelope.ofElement envelope.toElement = .error cause →
      echoMessage .source envelope protocol false ids =
        .error (.malformedPayload (.noEnvelope cause)) := by
  refine ⟨document_views_agree protocol ids free, ?element, ?refused⟩
  case element =>
    intro read known
    exact echoMessage_source_of_ok protocol ids known
  case refused =>
    intro cause refused
    exact echoMessage_source_of_error protocol ids refused

/-- A message with a greeting. -/
def greeting : Envelope :=
  .ofBody .soap11 (.ofElement (.ofText "greeting" "hello"))

/-- The greeting comes back in all three ways. -/
theorem message_views_agree_greeting :
    greeting.references = [] ∧
    ∃ read, Envelope.parse (Text.Utf8.encode greeting.toXml) = .ok read ∧
      echoMessage .text greeting .soap12 false unaryIds = .ok (read, unaryIds) ∧
      echoMessage .dataSource greeting .soap12 false unaryIds = .ok (read, unaryIds) ∧
      echoMessage .source greeting .soap12 false unaryIds = .ok (greeting, unaryIds) := by
  have free : greeting.references = [] := by decide
  obtain ⟨document, element, _⟩ := message_views_agree greeting .soap12 unaryIds free
  refine ⟨free, ?_⟩
  obtain ⟨root, written, checked⟩ := @exists_readDocument_of_runWithin greeting.toElement 250
    (fun root => (Envelope.ofElement root).toOption.isSome) (by decide +kernel)
  have parsed : Envelope.parse (Text.Utf8.encode greeting.toXml) = Envelope.ofElement root := by
    rw [Envelope.parse, Envelope.toXml, written]
  rcases document with ⟨read, known, _, _, text, data⟩ | ⟨cause, _, refused, _⟩
  · exact ⟨read, known, text, data, element greeting rfl⟩
  · rw [← parsed, refused] at checked
    cases checked

/-! ## Messages with references -/

section Closed

variable {type : PayloadType} {envelope message : Envelope} {protocol : Protocol}
  {ids left : IdSupply}

/-- A message without attachments is closed only if it has no references. -/
theorem closed_iff_of_bare (bare : message.attachments = []) :
    message.Closed ↔ message.references = [] := by
  constructor
  · intro closed
    refine List.eq_nil_iff_forall_not_mem.2 fun reference member => ?_
    obtain ⟨href, _, attached⟩ := closed reference member
    rw [Envelope.attachment?, bare] at attached
    cases attached
  · intro none reference member
    rw [none] at member
    exact absurd member List.not_mem_nil

/-- What comes back by its element or its text is read of an element, and has no attachments. -/
theorem exists_root_of_echoMessage (mtom : Bool) (inBody : type = .text ∨ type = .source)
    (echoed : echoMessage type envelope protocol mtom ids = .ok (message, left)) :
    ∃ root read, (root = envelope.toElement ∨
        readDocument (Text.Utf8.encode envelope.toXml) = .ok root) ∧
      Envelope.ofElement root = .ok read ∧ message = { read with mtom, attachments := [] } := by
  have read {root : Element} (made : (orMalformed (messageOfBody (.ofElement root) mtom [])).map
      (·, ids) = .ok (message, left)) : ∃ read, Envelope.ofElement root = .ok read ∧
        message = { read with mtom, attachments := [] } := by
    cases known : Envelope.ofElement root with
    | error cause =>
      rw [messageOfBody_of_error mtom known] at made
      exact nomatch made
    | ok read =>
      rw [messageOfBody_of_ok mtom known] at made
      exact ⟨read, rfl, (Prod.mk.inj (Except.ok.inj made)).1.symm⟩
  rcases inBody with rfl | rfl
  · cases written : readDocument (Text.Utf8.encode envelope.toXml) with
    | error cause =>
      rw [echoMessage_text_of_error protocol mtom ids written] at echoed
      exact nomatch echoed
    | ok root =>
      rw [echoMessage_text_of_ok protocol mtom ids written] at echoed
      exact ⟨root, (read echoed).imp fun _ known => ⟨.inr rfl, known⟩⟩
  · rw [echoMessage_source] at echoed
    exact ⟨_, (read echoed).imp fun _ known => ⟨.inl rfl, known⟩⟩

/-- A document that stands for itself has no references. -/
theorem free_of_selfContained {document : Element} (alone : selfContained envelope = .ok document) :
    outermost isIncludeName document.children = [] := by
  rw [selfContained] at alone
  obtain ⟨children, done, made⟩ := exists_of_bind_eq_ok alone
  cases made
  exact free_of_inlineNodes done

/-- A message read of data that has no references is closed: it refers to what it attaches. -/
theorem closed_of_messageOfData {data : DataSource} {read : Envelope}
    (made : messageOfData data true ids = .ok (message, left))
    (parsed : Envelope.parse data.bytes = .ok read) (free : read.references = []) :
    message.Closed := by
  obtain ⟨headers, content⟩ := Envelope.references_eq_nil_iff.1 free
  have flagged : (read.setMtom true).body? = read.body? := rfl
  simp only [messageOfData, parsed, flagged] at made
  cases known : read.body? with
  | none =>
    rw [known] at made
    cases made
    intro reference member
    have none : (read.setMtom true).references = [] := free
    rw [none] at member
    exact absurd member List.not_mem_nil
  | some body =>
    simp only [known] at made
    obtain ⟨⟨nodes, last, rest⟩, done, made⟩ := exists_of_bind_eq_ok made
    cases made
    have nodesFree : outermost isIncludeName body.nodes = [] := by
      rwa [Envelope.bodyNodes, Envelope.body?_eq_some_iff.1 known] at content
    have reattached := reattached_of_externalizeNodes rfl nodesFree done
    obtain ⟨attachments, kept⟩ := exists_externalizeNodes_eq done
    refine Envelope.closed_iff.2 fun element member refers => ?_
    rcases member with header | inBody
    · have same : (last.setBody (.ofNodes nodes)).headers = read.headers := by
        rw [kept]
        rfl
      rw [same] at header
      exact absurd refers (by simp [outermost_eq_nil_iff.1 headers element header])
    · rw [bodyNodes_setBody, elementsWithin_ofNodes] at inBody
      exact reattached.resolves element inBody refers

/-- What comes back as data is closed, if documents are read as they were written. -/
theorem closed_of_echoMessage_data
    (readsBack : ∀ document, selfContained envelope = .ok document → document.ReadsBack)
    (echoed : echoMessage .dataSource envelope protocol true ids = .ok (message, left)) :
    message.Closed := by
  cases alone : selfContained envelope with
  | error cause =>
    simp only [echoMessage, decodeMessage, messageData, alone, bind, Except.bind] at echoed
    cases echoed
  | ok document =>
    obtain ⟨root, written, plain, _⟩ := readsBack document alone
    rw [echoMessage_data protocol true ids alone, orMalformed] at echoed
    have made := eq_ok_of_mapError echoed
    have rootFree : outermost isIncludeName root.children = [] :=
      (Element.free_iff_of_plain plain).2 (free_of_selfContained alone)
    cases known : Envelope.ofElement root with
    | error cause =>
      simp only [messageOfData, Envelope.parse, written, known] at made
      cases made
    | ok read =>
      have parsed : Envelope.parse (Text.Utf8.encode (document.write true false)) = .ok read := by
        rw [Envelope.parse, written]
        exact known
      have free : read.references = [] :=
        (Envelope.references_eq_nil_iff_of_ofElement known).2 (Envelope.freeToRead_of_free rootFree)
      exact closed_of_messageOfData made parsed free

/-- By its element or its text a message comes back closed only without references, and it has some
if it had some before, unless its body is taken for a fault. -/
theorem closed_iff_of_echoMessage_inBody (inBody : type = .text ∨ type = .source)
    (echoed : echoMessage type envelope protocol true ids = .ok (message, left)) :
    (message.Closed ↔ message.references = []) ∧
    (envelope.Sound → (∀ body, envelope.body? = some body → body.FaultFree) →
      envelope.toElement.ReadsBack → (message.references = [] ↔ envelope.references = [])) := by
  obtain ⟨root, read, source, known, rfl⟩ := exists_root_of_echoMessage true inBody echoed
  refine ⟨closed_iff_of_bare rfl, fun sound faultFree written => ?_⟩
  have plain : root.plain = envelope.toElement.plain := by
    rcases source with rfl | parsed
    · rfl
    · obtain ⟨other, own, same, _⟩ := written
      rwa [Except.ok.inj (parsed.symm.trans own)]
  have same : read.references = [] ↔ envelope.references = [] :=
    sound.references_eq_nil_iff faultFree plain known
  exact same

/-- When a closed message comes back optimised, it is closed if it went as a whole or, documents
being read as they were written, as data; by its element or its text, it is closed only without
references. It has references then whenever it had some before, unless its body is taken for a
fault. -/
theorem closed_after_echo (closed : envelope.Closed)
    (readsBack : type = .dataSource →
      ∀ document, selfContained envelope = .ok document → document.ReadsBack)
    (echoed : echoMessage type envelope protocol true ids = .ok (message, left)) :
    (message.Closed ↔ type = .soapMessage ∨ type = .dataSource ∨ message.references = []) ∧
    (type ≠ .dataSource → envelope.Sound →
      (∀ body, envelope.body? = some body → body.FaultFree) → envelope.toElement.ReadsBack →
        (message.references = [] ↔ envelope.references = [])) := by
  cases type with
  | text =>
    obtain ⟨iff, kept⟩ := closed_iff_of_echoMessage_inBody (.inl rfl) echoed
    exact ⟨by simp [iff], fun _ => kept⟩
  | source =>
    obtain ⟨iff, kept⟩ := closed_iff_of_echoMessage_inBody (.inr rfl) echoed
    exact ⟨by simp [iff], fun _ => kept⟩
  | soapMessage =>
    rw [echoMessage_soapMessage] at echoed
    cases echoed
    exact ⟨⟨fun _ => .inl rfl, fun _ => closed⟩, fun _ _ _ _ => Iff.rfl⟩
  | dataSource =>
    exact ⟨⟨fun _ => .inr (.inl rfl), fun _ => closed_of_echoMessage_data (readsBack rfl) echoed⟩,
      fun other => absurd rfl other⟩

/-- A reference to an attachment. -/
def noteReference : Element where
  tag := { name := "Include", attributes := [("href", "cid:a")] }

/-- A message whose body is that reference. -/
def referringMessage : Envelope where
  protocol := .soap11
  mtom := true
  content := .body { nodes := [noteReference.toNode] }
  attachments := [("a", ⟨"text/plain", [104, 105]⟩)]

/-- The message is closed. -/
theorem closed_referringMessage : referringMessage.Closed := by
  intro reference member
  have only : referringMessage.references = [noteReference] := rfl
  rw [only] at member
  rw [List.mem_singleton.1 member]
  exact ⟨"cid:a", rfl, rfl⟩

/-- The document of the message that stands for itself. -/
def inlinedDocument : Element :=
  (referringMessage.withNodes [.text "aGk="]).toElement

theorem selfContained_referringMessage : selfContained referringMessage = .ok inlinedDocument := rfl

/-- That document is read as it is written, and what is read can be encoded anew. -/
theorem exists_echoMessage_referringMessage : inlinedDocument.ReadsBack ∧
    ∃ message left, echoMessage .dataSource referringMessage .soap11 true unaryIds =
      .ok (message, left) := by
  obtain ⟨root, written, checked⟩ := @exists_readDocument_of_runWithin inlinedDocument 250
    (fun root => root.plain = inlinedDocument.plain &&
      declaredUri? root = declaredUri? inlinedDocument &&
        (Envelope.ofElement root).toOption.any fun read => read.body?.any fun body =>
          (externalizeNodes (read.setMtom true) unaryIds body.nodes).toOption.isSome)
    (by decide +kernel)
  simp only [Bool.and_eq_true, decide_eq_true_eq] at checked
  obtain ⟨⟨plain, declared⟩, made⟩ := checked
  refine ⟨⟨root, written, plain, declared⟩, ?_⟩
  obtain ⟨read, known, encoded⟩ := (Option.any_eq_true _ _).1 made
  obtain ⟨body, present, done⟩ := (Option.any_eq_true _ _).1 encoded
  let data : DataSource :=
    ⟨referringMessage.protocol.contentType, Text.Utf8.encode (inlinedDocument.write true false)⟩
  have parsed : Envelope.parse data.bytes = .ok read := by
    rw [Envelope.parse, written]
    cases shape : Envelope.ofElement root with
    | error cause =>
      rw [shape] at known
      cases known
    | ok envelope =>
      rw [shape] at known
      exact shape.trans (congrArg Except.ok (Option.some.inj known))
  rw [echoMessage_data .soap11 true unaryIds selfContained_referringMessage]
  cases encoding : externalizeNodes (read.setMtom true) unaryIds body.nodes with
  | error cause =>
    rw [encoding] at done
    cases done
  | ok result =>
    obtain ⟨nodes, last, left⟩ := result
    have message := @messageOfData_of_body data _ _ _ _ _ _ parsed present encoding
    exact ⟨_, _, congrArg orMalformed message⟩

/-- Given as an element the message comes back as it is, but without what it refers to. -/
theorem echoMessage_source_referringMessage :
    echoMessage .source referringMessage .soap11 true unaryIds =
      .ok ({ referringMessage with attachments := [] }, unaryIds) := rfl

/-- The reference is still there. -/
theorem references_referringMessage :
    ({ referringMessage with attachments := [] } : Envelope).references = [noteReference] := rfl

/-- Given as an element the message comes back open, given as data it comes back closed. -/
theorem closed_after_echo_referring :
    referringMessage.Closed ∧
    (∃ message left, echoMessage .source referringMessage .soap11 true unaryIds =
      .ok (message, left) ∧ ¬ message.Closed) ∧
    ∃ message left, echoMessage .dataSource referringMessage .soap11 true unaryIds =
      .ok (message, left) ∧ message.Closed := by
  have closed := closed_referringMessage
  obtain ⟨written, message, left, echoed⟩ := exists_echoMessage_referringMessage
  refine ⟨closed, ⟨_, _, echoMessage_source_referringMessage, fun stillClosed => ?_⟩,
    message, left, echoed, ?_⟩
  · obtain ⟨only, _⟩ := closed_after_echo closed (by simp) echoMessage_source_referringMessage
    rcases only.1 stillClosed with same | same | none
    · exact nomatch same
    · exact nomatch same
    · exact nomatch references_referringMessage.symm.trans none
  · refine (closed_after_echo closed (fun _ document alone => ?_) echoed).1.2 (.inr (.inl rfl))
    rwa [← Except.ok.inj (selfContained_referringMessage.symm.trans alone)]

/-- So a closed message that comes back optimised need not be closed. -/
theorem not_closed_after_echo :
    ¬ ∀ (type : PayloadType) (envelope message : Envelope) (protocol : Protocol)
      (ids left : IdSupply), envelope.mtom = true → envelope.Closed →
        echoMessage type envelope protocol true ids = .ok (message, left) → message.Closed := by
  intro claimed
  have closed := claimed .source referringMessage _ .soap11 unaryIds _ rfl closed_referringMessage
    echoMessage_source_referringMessage
  have none := (closed_iff_of_bare rfl).1 closed
  exact nomatch references_referringMessage.symm.trans none

end Closed

end SoapDispatch.Codec
