import SoapDispatch.Proofs.References

/-!
# Messages without references

A whole message as data is a document that stands for itself. It is made of the tree of the message
by putting the base64 of an attachment in the place of each outermost reference, so there is such a
document exactly when all these references can be resolved; the first one that cannot, in document
order, tells why there is none.
-/

namespace SoapDispatch.Codec

open SoapDispatch.Xml SoapDispatch.Soap

/-! ## One reference -/

/-- Whether a reference names a content id: behind the scheme `cid:`, or without any scheme. -/
def NamesId (href id : String) : Prop :=
  href = "cid:" ++ id ∨ href = id ∧ ∀ rest, href ≠ "cid:" ++ rest

/-- A reference names one content id. -/
theorem contentIdOf_eq_iff {href id : String} : contentIdOf href = id ↔ NamesId href id := by
  by_cases scheme : ∃ rest, href = "cid:" ++ rest
  · obtain ⟨rest, rfl⟩ := scheme
    rw [contentIdOf_cid]
    constructor
    · rintro rfl
      exact .inl rfl
    · rintro (same | ⟨_, none⟩)
      · exact (String.append_right_inj _).1 same
      · exact absurd rfl (none rest)
  · have none : ∀ rest, href ≠ "cid:" ++ rest := fun rest same => scheme ⟨rest, same⟩
    have own : contentIdOf href = href := by
      unfold contentIdOf
      split
      · next rest chars =>
        refine absurd ?_ (none (String.ofList rest))
        rw [← String.toList_inj, chars]
        simp
      · rfl
    rw [own]
    constructor
    · exact fun same => .inr ⟨same, none⟩
    · rintro (same | ⟨same, _⟩)
      · exact absurd same (none id)
      · exact same

/-- Why a reference of a message cannot be resolved. -/
inductive Unresolved (envelope : Envelope) (reference : Element) : Malformation → Prop where
  | withoutMtom (plain : envelope.mtom = false) :
      Unresolved envelope reference .referenceWithoutMtom
  | withoutHref (mtom : envelope.mtom = true)
      (absent : reference.tag.attributes.get? "href" = none) :
      Unresolved envelope reference .referenceWithoutHref
  | unknown {href id : String} (mtom : envelope.mtom = true)
      (present : reference.tag.attributes.get? "href" = some href) (names : NamesId href id)
      (absent : envelope.attachment? id = none) :
      Unresolved envelope reference (.unknownAttachment id)

/-- Whether a reference of a message stands for some bytes: the message is optimised, and they are
those of the attachment that the reference names. -/
def StandsFor (envelope : Envelope) (reference : Element) (bytes : List UInt8) : Prop :=
  envelope.mtom = true ∧ ∃ href id data, reference.tag.attributes.get? "href" = some href ∧
    NamesId href id ∧ envelope.attachment? id = some data ∧ data.bytes = bytes

variable {envelope : Envelope} {reference : Element}

/-- A reference is resolved to what it stands for. -/
theorem resolveInclude_eq_ok_iff {bytes : List UInt8} :
    resolveInclude reference envelope = .ok bytes ↔ StandsFor envelope reference bytes := by
  rw [StandsFor]
  simp only [← contentIdOf_eq_iff]
  cases mtom : envelope.mtom with
  | false => simp [resolveInclude, mtom]
  | true =>
    cases present : reference.tag.attributes.get? "href" with
    | none => simp [resolveInclude, mtom, present]
    | some href =>
      cases found : envelope.attachment? (contentIdOf href) <;>
        simp [resolveInclude, mtom, present, found]

/-- A reference that cannot be resolved is refused for the reason why it cannot. -/
theorem resolveInclude_eq_error_iff {cause : Malformation} :
    resolveInclude reference envelope = .error cause ↔ Unresolved envelope reference cause := by
  constructor
  · intro refused
    unfold resolveInclude at refused
    split at refused
    · next plain =>
      cases refused
      exact .withoutMtom (by simpa using plain)
    · next mtom =>
      have optimised : envelope.mtom = true := by simpa using mtom
      split at refused
      · next absent =>
        cases refused
        exact .withoutHref optimised absent
      · next href present =>
        split at refused
        · cases refused
        · next absent =>
          cases refused
          exact .unknown optimised present (contentIdOf_eq_iff.1 rfl) absent
  · intro unresolved
    cases unresolved with
    | withoutMtom plain => simp [resolveInclude, plain]
    | withoutHref mtom absent => simp [resolveInclude, mtom, absent]
    | unknown mtom present names absent =>
      obtain rfl := contentIdOf_eq_iff.2 names
      simp [resolveInclude, mtom, present, absent]

/-! ## All references of a message -/

/-- The tree of a message with the attachments in the places of the references. -/
def resolvedDocument (envelope : Envelope) : Element :=
  { envelope.toElement with
    children := replaceEach isIncludeName (referenceText envelope) envelope.toElement.children }

/-- The root of a message is no reference. -/
theorem not_isIncludeName_toElement (envelope : Envelope) :
    isIncludeName envelope.toElement.tag.name = false := by
  have root : isIncludeName (envelopeName "Envelope") = false := by decide
  exact root

/-- So the outermost references are those below the root. -/
theorem outermost_toElement (envelope : Envelope) :
    outermost isIncludeName [envelope.toElement.toNode] =
      outermost isIncludeName envelope.toElement.children := by
  rw [Element.toNode, outermost_element, not_isIncludeName_toElement, outermost_nil,
    List.append_nil]
  rfl

/-- And they are replaced below the root. -/
theorem toNode_resolvedDocument (envelope : Envelope) : [(resolvedDocument envelope).toNode] =
    replaceEach isIncludeName (referenceText envelope) [envelope.toElement.toNode] := by
  rw [Element.toNode.eq_def envelope.toElement,
    replaceEach_of_not_kind (not_isIncludeName_toElement envelope)]
  rfl

/-- The references of a message are resolved one after the other. -/
theorem selfContained_eq (envelope : Envelope) : selfContained envelope =
    ((outermost isIncludeName [envelope.toElement.toNode]).mapM (resolveInclude · envelope)).map
      fun _ => resolvedDocument envelope := by
  rw [selfContained, inlineNodes_eq, outermost_toElement]
  cases (outermost isIncludeName envelope.toElement.children).mapM (resolveInclude · envelope) <;>
    rfl

/-- The document of a message that stands for itself is written, and otherwise the message is
refused. -/
theorem decodeMessage_dataSource (envelope : Envelope) :
    decodeMessage .dataSource envelope =
      (orMalformed (selfContained envelope)).map fun document => .data
        ⟨envelope.protocol.contentType, Text.Utf8.encode (document.write true false)⟩ := by
  rw [decodeMessage, messageData]
  cases selfContained envelope <;> rfl

/-- A message is refused as data for what is wrong with the first of its outermost references that
cannot be resolved. -/
theorem decodeMessage_dataSource_eq_error_iff {error : DispatchError} :
    decodeMessage .dataSource envelope = .error error ↔
      ∃ before reference after cause,
        outermost isIncludeName [envelope.toElement.toNode] = before ++ reference :: after ∧
        (∀ earlier ∈ before, ∃ bytes, StandsFor envelope earlier bytes) ∧
        Unresolved envelope reference cause ∧ error = .malformedPayload cause := by
  rw [decodeMessage_dataSource, selfContained_eq]
  simp only [← resolveInclude_eq_ok_iff, ← resolveInclude_eq_error_iff]
  constructor
  · intro refused
    cases all : (outermost isIncludeName [envelope.toElement.toNode]).mapM
        (resolveInclude · envelope) with
    | ok found =>
      rw [all] at refused
      cases refused
    | error cause =>
      rw [all] at refused
      cases refused
      obtain ⟨before, reference, after, split, earlier, unresolved⟩ := mapM_eq_error_iff.1 all
      exact ⟨before, reference, after, cause, split, earlier, unresolved, rfl⟩
  · rintro ⟨before, reference, after, cause, split, earlier, unresolved, rfl⟩
    rw [mapM_eq_error_iff.2 ⟨before, reference, after, split, earlier, unresolved⟩]
    rfl

/-- A message that is not refused has its references replaced by what they stand for. -/
theorem exists_document_of_decodeMessage {payload : Payload}
    (done : decodeMessage .dataSource envelope = .ok payload) :
    ∃ (document : Element) (bytes : Element → List UInt8),
      payload = .data
        ⟨envelope.protocol.contentType, Text.Utf8.encode (document.write true false)⟩ ∧
      (∀ element ∈ elementsWithin [document.toNode], isIncludeName element.tag.name = false) ∧
      (∀ reference ∈ outermost isIncludeName [envelope.toElement.toNode],
        StandsFor envelope reference (bytes reference)) ∧
      [document.toNode] = replaceEach isIncludeName
        (fun reference => .text (Base64.encode (bytes reference))) [envelope.toElement.toNode] := by
  rw [decodeMessage_dataSource] at done
  obtain ⟨document, alone, made⟩ := exists_of_map_eq_ok done
  have whole := eq_ok_of_mapError alone
  rw [selfContained_eq] at whole
  obtain ⟨found, all, rfl⟩ := exists_of_map_eq_ok whole
  refine ⟨_, fun reference => (resolveInclude reference envelope).toOption.getD [], made.symm, ?_,
    ?_, toNode_resolvedDocument envelope⟩
  · have replaced : inlineNodes envelope [envelope.toElement.toNode] =
        .ok [(resolvedDocument envelope).toNode] := by
      rw [inlineNodes_eq, all, toNode_resolvedDocument]
      rfl
    exact outermost_eq_nil_iff.1 (free_of_inlineNodes replaced)
  · intro reference member
    exact resolveInclude_eq_ok_iff.1 (eq_ok_of_mapM [] all reference member)

/-- A message is refused as data exactly when one of its outermost references cannot be resolved,
and then for what is wrong with the first of them. Otherwise it is written as a document without
references: its own tree, with the base64 of the attachments in the places of the outermost
references. -/
theorem message_resolution (envelope : Envelope) :
    (∀ error, decodeMessage .dataSource envelope = .error error ↔
      ∃ before reference after cause,
        outermost isIncludeName [envelope.toElement.toNode] = before ++ reference :: after ∧
        (∀ earlier ∈ before, ∃ bytes, StandsFor envelope earlier bytes) ∧
        Unresolved envelope reference cause ∧ error = .malformedPayload cause) ∧
    ((∃ error, decodeMessage .dataSource envelope = .error error) ↔
      ∃ reference ∈ outermost isIncludeName [envelope.toElement.toNode],
        ∃ cause, Unresolved envelope reference cause) ∧
    ∀ payload, decodeMessage .dataSource envelope = .ok payload →
      ∃ (document : Element) (bytes : Element → List UInt8),
        payload = .data
          ⟨envelope.protocol.contentType, Text.Utf8.encode (document.write true false)⟩ ∧
        (∀ element ∈ elementsWithin [document.toNode], isIncludeName element.tag.name = false) ∧
        (∀ reference ∈ outermost isIncludeName [envelope.toElement.toNode],
          StandsFor envelope reference (bytes reference)) ∧
        [document.toNode] = replaceEach isIncludeName
          (fun reference => .text (Base64.encode (bytes reference)))
          [envelope.toElement.toNode] := by
  refine ⟨fun error => decodeMessage_dataSource_eq_error_iff, ?_,
    fun payload => exists_document_of_decodeMessage⟩
  constructor
  · rintro ⟨error, refused⟩
    obtain ⟨before, reference, after, cause, split, _, unresolved, _⟩ :=
      decodeMessage_dataSource_eq_error_iff.1 refused
    exact ⟨reference, split ▸ List.mem_append_right _ List.mem_cons_self, cause, unresolved⟩
  · rintro ⟨reference, member, cause, unresolved⟩
    cases done : decodeMessage .dataSource envelope with
    | error error => exact ⟨error, rfl⟩
    | ok payload =>
      obtain ⟨_, bytes, _, _, stands, _⟩ := exists_document_of_decodeMessage done
      have resolved := resolveInclude_eq_ok_iff.2 (stands reference member)
      cases resolved.symm.trans (resolveInclude_eq_error_iff.2 unresolved)

/-- A message with an attachment, one node within a block of its header, and some nodes within an
element of its body. -/
def citingMessage (cited : Node) (nodes : List Node) : Envelope where
  protocol := .soap11
  mtom := true
  headers := [Element.ofName "h" [cited]]
  content := .body { nodes := [(Element.ofName "x" nodes).toNode] }
  attachments := [("a", ⟨"text/plain", [7, 8]⟩)]

/-- A reference without a content id in front of one that names what is not attached tells why the
message is refused; without the two it is written with the attachment in its header. -/
theorem message_resolution_citing :
    decodeMessage .dataSource (citingMessage (includeElement "a").toNode
        [(Element.ofName "Include" []).toNode, (includeElement "b").toNode]) =
      .error (.malformedPayload .referenceWithoutHref) ∧
    decodeMessage .dataSource (citingMessage (includeElement "a").toNode [.text "y"]) =
      .ok (.data ⟨Protocol.soap11.contentType, Text.Utf8.encode
        ((citingMessage (.text "Bwg=") [.text "y"]).toElement.write true false)⟩) := by
  have stands (nodes : List Node) : StandsFor (citingMessage (includeElement "a").toNode nodes)
      (includeElement "a") [7, 8] :=
    ⟨rfl, "cid:a", "a", ⟨"text/plain", [7, 8]⟩, rfl, .inl rfl, rfl, rfl⟩
  constructor
  · refine ((message_resolution _).1 _).2 ⟨[includeElement "a"], Element.ofName "Include" [],
      [includeElement "b"], _, rfl, ?_, .withoutHref rfl rfl, rfl⟩
    intro earlier member
    obtain rfl := List.mem_singleton.1 member
    exact ⟨_, stands _⟩
  · have only : outermost isIncludeName
        [(citingMessage (includeElement "a").toNode [.text "y"]).toElement.toNode] =
          [includeElement "a"] := rfl
    obtain ⟨_, refused, written⟩ :=
      message_resolution (citingMessage (includeElement "a").toNode [.text "y"])
    cases done : decodeMessage .dataSource
        (citingMessage (includeElement "a").toNode [.text "y"]) with
    | error error =>
      obtain ⟨reference, member, cause, unresolved⟩ := refused.1 ⟨error, done⟩
      obtain rfl := List.mem_singleton.1 (only ▸ member)
      cases (resolveInclude_eq_ok_iff.2 (stands _)).symm.trans
        (resolveInclude_eq_error_iff.2 unresolved)
    | ok payload =>
      obtain ⟨document, bytes, rfl, _, found, replaced⟩ := written payload done
      have resolved := found (includeElement "a") (only ▸ List.mem_singleton_self _)
      have own : bytes (includeElement "a") = [7, 8] :=
        Except.ok.inj ((resolveInclude_eq_ok_iff.2 resolved).symm.trans
          (resolveInclude_eq_ok_iff.2 (stands _)))
      have inlined : document.toNode = (citingMessage
          (.text (Base64.encode (bytes (includeElement "a")))) [.text "y"]).toElement.toNode :=
        (List.cons.inj replaced).1
      have text : Base64.encode [7, 8] = "Bwg=" := by decide
      rw [own, text] at inlined
      have same : document = (citingMessage (.text "Bwg=") [.text "y"]).toElement :=
        Option.some.inj (congrArg Node.asElement? inlined)
      rw [same]
      rfl

end SoapDispatch.Codec
