import SoapDispatch.Proofs.Attaching
import SoapDispatch.Proofs.Blame
import SoapDispatch.Proofs.PlainForm
import SoapDispatch.Proofs.Reading

/-!
# Echoes of optimised messages

An optimised message that is given to a provider as data, and comes back as it went, is an optimised
message with the same data in the same places. On its way it is a document that stands for itself:
references are replaced by what they refer to, the document is written and read, and the data of the
message that is read is attached anew.
-/

namespace SoapDispatch

open SoapDispatch.Xml SoapDispatch.Soap SoapDispatch.Codec

/-! ## Documents that are read back -/

/-- A document that is read from its written form as the same tree, up to qualifiers and blank
characters: with the same plain form, and the same namespace of the root. -/
def Xml.Element.ReadsBack (document : Element) : Prop :=
  ∃ root, readDocument (Text.Utf8.encode (document.write true false)) = .ok root ∧
    root.plain = document.plain ∧ declaredUri? root = declaredUri? document

namespace Soap.Envelope

/-- The message with its body replaced, whatever is in the new one. -/
def withNodes (envelope : Envelope) (nodes : List Node) : Envelope :=
  { envelope with content := .body { nodes } }

/-- A message is read from a tree with the plain form of its element, with a body of the same plain
form. -/
theorem exists_ofElement_eq_ok {envelope : Envelope} {nodes : List Node} {root : Element}
    (plain : root.plain = (envelope.withNodes nodes).toElement.plain)
    (declared : declaredUri? root = declaredUri? (envelope.withNodes nodes).toElement)
    (faultFree : Body.FaultFree { nodes }) :
    ∃ headers read, ofElement root = .ok
        { protocol := envelope.protocol, headers, content := (Body.ofNodes read).toContent } ∧
      plainNodes read = plainNodes nodes := by
  have name : root.localName = "Envelope" := by
    rw [← Element.localName_plain, plain, Element.localName_plain]
    exact localName_envelopeName "Envelope" (by decide)
  have body : (root.child? "Body").map Element.plain =
      some (Element.ofName (envelopeName "Body") nodes).plain := by
    rw [← Element.child?_plain, plain, Element.child?_plain, child?_body]
    rfl
  obtain ⟨element, found, same⟩ := Option.map_eq_some_iff.1 body
  have contents : plainNodes element.children = plainNodes nodes :=
    (List.cons.inj (congrArg Element.children same)).2
  have noFault : element.child? "Fault" = none := by
    have absent : (Element.ofName (envelopeName "Body") nodes).child? "Fault" = none :=
      List.find?_eq_none.2 fun child member => by simpa using faultFree child member
    have shown := congrArg (·.child? "Fault") same
    simp only [Element.child?_plain, absent, Option.map_none] at shown
    exact Option.map_eq_none_iff.1 shown
  refine ⟨(root.child? "Header").elim [] fun header => elementsOf header.children,
    element.children, ?_, contents⟩
  simp only [ofElement, name, ne_eq, not_true_eq_false, if_false, declared, declaredUri?_toElement,
    Protocol.ofUri?_envelopeUri, found, contentOf, noFault]
  rfl

end Soap.Envelope

namespace Codec

/-! ## The way out -/

/-- A message whose headers are free of references stands for itself once its body does. -/
theorem selfContained_eq_ok {envelope : Envelope} {body : Body} {inlined : List Node}
    (known : envelope.body? = some body)
    (headers : outermost isIncludeName (envelope.headers.map Element.toNode) = [])
    (done : inlineNodes envelope body.nodes = .ok inlined) :
    selfContained envelope = .ok (envelope.withNodes inlined).toElement := by
  have nodes : envelope.bodyNodes = body.nodes := by
    rw [Envelope.bodyNodes, Envelope.body?_eq_some_iff.1 known]
  let fronts : List Node := (if envelope.headers.isEmpty then []
    else [Element.ofName (envelopeName "Header") (envelope.headers.map Element.toNode)]).map
      Element.toNode
  have front : inlineNodes envelope fronts = .ok fronts := by
    refine inlineNodes_of_free envelope ?_
    simp only [fronts]
    split
    · rfl
    · have header : isIncludeName (envelopeName "Header") = false := by decide
      exact outermost_element_eq_nil_iff.2 ⟨header, headers, rfl⟩
  have back : inlineNodes envelope
      [(Element.ofName (envelopeName "Body") envelope.bodyNodes).toNode] =
        .ok [(Element.ofName (envelopeName "Body") inlined).toNode] := by
    have other : isIncludeName (envelopeName "Body") = false := by decide
    rw [Element.toNode, inlineNodes_element, nodes]
    simp only [Element.ofName, other, done]
    rfl
  have children (message : Envelope) (same : message.headers = envelope.headers) :
      message.toElement.children =
        fronts ++ [(Element.ofName (envelopeName "Body") message.bodyNodes).toNode] := by
    simp only [Envelope.toElement, Envelope.parts, List.map_append, same, fronts]
    rfl
  rw [selfContained, children envelope rfl, inlineNodes_append front back]
  have own : (envelope.withNodes inlined).toElement =
      { envelope.toElement with children := (envelope.withNodes inlined).toElement.children } := rfl
  rw [own, children (envelope.withNodes inlined) rfl]
  rfl

/-! ## The way back -/

/-- The nodes of a body that was put into a message. -/
theorem bodyNodes_setBody (envelope : Envelope) (body : Body) :
    (envelope.setBody body).bodyNodes = body.nodes := by
  rw [Envelope.bodyNodes, Envelope.setBody]
  cases empty : body.isEmpty with
  | true => simp [Body.toContent, empty, List.isEmpty_iff.1 empty]
  | false => simp [Body.toContent, empty]

section Read

variable {data : DataSource} {envelope : Envelope}

/-- A message without a body is read as it is, and marked as optimised. -/
theorem messageOfData_of_none (ids : IdSupply) (parsed : Envelope.parse data.bytes = .ok envelope)
    (none : envelope.body? = none) :
    messageOfData data true ids = .ok (envelope.setMtom true, ids) := by
  have same : (envelope.setMtom true).body? = envelope.body? := rfl
  simp only [messageOfData, parsed, same, none]

/-- A message with a body is read, marked as optimised, and its body is encoded anew. -/
theorem messageOfData_of_body {body : Body} {nodes : List Node} {message : Envelope}
    {ids left : IdSupply} (parsed : Envelope.parse data.bytes = .ok envelope)
    (known : envelope.body? = some body)
    (done : externalizeNodes (envelope.setMtom true) ids body.nodes = .ok (nodes, message, left)) :
    messageOfData data true ids = .ok (message.setBody (.ofNodes nodes), left) := by
  have same : (envelope.setMtom true).body? = envelope.body? := rfl
  simp only [messageOfData, parsed, same, known, done]
  rfl

end Read

/-- An optimised message read from data has all the data of its body attached. -/
theorem exists_messageOfData_eq_ok {data : DataSource} {protocol : Protocol}
    {headers : List Element} {read : List Node} {carried : List DataSource} (ids : IdSupply)
    (parsed : Envelope.parse data.bytes =
      .ok { protocol, headers, content := (Body.ofNodes read).toContent })
    (unreferenced : ∀ binary ∈ outermost isBinaryName read, binary.child? "Include" = none)
    (held : ∀ other, (outermost isBinaryName read).map (binaryData · other) = carried.map .ok) :
    ∃ (envelope message : Envelope) (left : IdSupply),
      messageOfData data true ids = .ok (message, left) ∧ envelope.attachments = [] ∧
      message.attachments = (envelope.attachAll ids carried).attachments ∧
      message.mtom = true ∧ message.protocol = protocol ∧ message.isFault = false ∧
      outermost isBinaryName message.bodyNodes = referring ids carried := by
  have places : outermost isBinaryName (Body.ofNodes read).nodes = outermost isBinaryName read :=
    outermost_ofNodes read
  cases empty : (Body.ofNodes read).isEmpty with
  | true =>
    rw [Body.toContent, if_pos empty] at parsed
    have nothing : carried = [] := by
      rw [← places, List.isEmpty_iff.1 empty] at held
      exact List.map_eq_nil_iff.1 (held (.new protocol)).symm
    rw [nothing]
    exact ⟨_, _, ids, messageOfData_of_none ids parsed rfl, rfl, rfl, rfl, rfl, rfl, rfl⟩
  | false =>
    rw [Body.toContent, empty, if_neg Bool.false_ne_true] at parsed
    let envelope : Envelope := { protocol, mtom := true, headers, content := .body (.ofNodes read) }
    obtain ⟨replaced, attached⟩ := @exists_attached envelope ids (Body.ofNodes read).nodes carried
      rfl (places.symm ▸ unreferenced) (places.symm ▸ held envelope)
    obtain ⟨attachments, same⟩ := envelope.exists_attachAll_eq ids carried
    refine ⟨envelope, _, _, messageOfData_of_body parsed rfl attached.done, rfl, rfl, ?_, ?_,
      Envelope.isFault_setBody _ _, ?_⟩
    · rw [same]
      rfl
    · rw [same]
      rfl
    · rw [bodyNodes_setBody, outermost_ofNodes, attached.places]

/-! ## There and back -/

/-- Data that is found in elements one by one is decoded from them one by one. -/
theorem map_decode {binaries : List Element} {envelope : Envelope} {carried : List DataSource}
    (held : binaries.map (fun binary => decodeData (.ofElement binary) envelope) =
      carried.map .ok) :
    binaries.map (fun binary => decode .dataSource (.ofElement binary) envelope) =
      carried.map (fun data => .ok (.data data)) := by
  have lifted := congrArg (List.map fun result => (orMalformed result).map Payload.data) held
  rw [List.map_map, List.map_map] at lifted
  exact lifted

/-- A `Binary` element by itself is a body with the data of that element. -/
theorem decodeData_ofElement {binary : Element} (named : isBinaryName binary.tag.name = true)
    (envelope : Envelope) : decodeData (.ofElement binary) envelope = binaryData binary envelope := by
  have found : (Body.ofElement binary).firstElement? = some binary := rfl
  simp only [decodeData, found, named, if_true]

/-- A message whose body holds data in its outermost `Binary` elements, and has no other references,
is read as data and made a message of again: an optimised message of the same version, with one
attachment for each of these elements, which hold the same data in the same order. -/
theorem binary_echo {envelope : Envelope} {body : Body} (protocol : Protocol) (ids : IdSupply)
    (known : envelope.body? = some body) (faultFree : body.FaultFree)
    (held : ∀ carrier ∈ outermost isCarrierName body.nodes, Held envelope carrier)
    (headers : outermost isIncludeName (envelope.headers.map Element.toNode) = [])
    (readsBack : ∀ document, selfContained envelope = .ok document → document.ReadsBack)
    (distinct : Function.Injective ids.unique) :
    ∃ (data : DataSource) (echo : Envelope) (left : IdSupply) (carried : List DataSource),
      decodeMessage .dataSource envelope = .ok (.data data) ∧
      encodeMessage .dataSource (.data data) protocol true ids = .ok (echo, left) ∧
      echo.mtom = true ∧ echo.protocol = envelope.protocol ∧ echo.isFault = false ∧
      echo.attachments.length = (outermost isBinaryName body.nodes).length ∧
      (outermost isBinaryName body.nodes).map
        (fun binary => decode .dataSource (.ofElement binary) envelope) =
          carried.map (fun data => .ok (.data data)) ∧
      (outermost isBinaryName echo.bodyNodes).map
        (fun binary => decode .dataSource (.ofElement binary) echo) =
          carried.map (fun data => .ok (.data data)) := by
  -- What is written is the element of the message with its body inlined.
  obtain ⟨inlined, carried, done, free, before, after, names⟩ := exists_inlined held
  have document := selfContained_eq_ok known headers done
  obtain ⟨root, written, plain, declared⟩ := readsBack _ document
  -- What is read has the same plain form, so it is a message that holds the same data within.
  have stillFree : Body.FaultFree { nodes := inlined } := by
    intro element member
    have named : element.localName ∈ (elementsOf body.nodes).map Element.localName :=
      names ▸ List.mem_map_of_mem member
    obtain ⟨original, first, same⟩ := List.mem_map.1 named
    exact same ▸ faultFree original first
  obtain ⟨blocks, read, parsed, same⟩ :=
    Envelope.exists_ofElement_eq_ok plain declared stillFree
  obtain ⟨unreferenced, equal⟩ := binaryData_of_plainNodes_eq same free
  let data : DataSource :=
    ⟨envelope.protocol.contentType, Text.Utf8.encode
      ((envelope.withNodes inlined).toElement.write true false)⟩
  have message : messageData envelope = .ok data := by
    rw [messageData, document]
    rfl
  have received : Envelope.parse data.bytes = .ok
      { protocol := envelope.protocol, headers := blocks,
        content := (Body.ofNodes read).toContent } := by
    rw [Envelope.parse, written]
    exact parsed
  -- Nothing is attached to what is read, so every id that is drawn makes an attachment more.
  obtain ⟨base, echo, left, made, bare, attachments, mtom, version, noFault, places⟩ :=
    exists_messageOfData_eq_ok ids received unreferenced
      fun other => (equal other).trans (after other)
  have fresh : ids.FreshFor base.contentIds := by
    rw [Envelope.contentIds, bare]
    exact ⟨distinct, fun _ _ => List.not_mem_nil⟩
  refine ⟨data, echo, left, carried, ?_, ?_, mtom, version, noFault, ?_, ?_, ?_⟩
  · rw [decodeMessage, message]
    rfl
  · have required : (Payload.data data).require .dataSource = .ok data := rfl
    rw [encodeMessage, required]
    simp only [bind, Except.bind, made]
    rfl
  · rw [attachments, base.length_attachAll fresh, bare, List.length_nil, Nat.zero_add,
      ← List.length_map (f := fun data => (.ok data : Except Malformation DataSource)), ← before,
      List.length_map]
  · refine map_decode ?_
    rw [← before]
    exact List.map_congr_left fun binary member =>
      decodeData_ofElement (kind_of_mem_outermost member) envelope
  · rw [places]
    exact map_decode (decodeData_referring fresh mtom attachments)

/-! ## A message with data of both kinds -/

/-- A `Binary` element that refers to an attachment. -/
def attachedNote : Element where
  tag := { name := "Binary" }
  children := [(Element.mk { name := "Include", attributes := [("href", "cid:a")] } []).toNode]

/-- A `Binary` element that holds its data within. -/
def heldNote : Element where
  tag := { name := "Binary", attributes := [("contentType", "b")] }
  children := [.text "AQID"]

/-- A message that refers to an attachment, and holds data of its own further in. -/
def mixedMessage : Envelope where
  protocol := .soap11
  mtom := true
  content := .body { nodes := [attachedNote.toNode, (Element.ofName "x" [heldNote.toNode]).toNode] }
  attachments := [("a", ⟨"c", [7, 8]⟩)]

/-- A supply of ids that differ in length. -/
def unaryIds : IdSupply where
  unique number := String.ofList (List.replicate number 'u')

theorem injective_unaryIds : Function.Injective unaryIds.unique := by
  intro first second same
  simpa using congrArg List.length (String.ofList_inj.1 same)

/-- The document that the message becomes. -/
def mixedDocument : Element :=
  (mixedMessage.withNodes [(Element.mk { name := "Binary" } [.text "Bwg="]).toNode,
    (Element.ofName "x" [heldNote.toNode]).toNode]).toElement

/-- The document is read back. -/
theorem readsBack_mixedDocument : mixedDocument.ReadsBack := by
  obtain ⟨root, written, checked⟩ := @exists_readDocument_of_runWithin mixedDocument 250
    (fun root => root.plain = mixedDocument.plain && declaredUri? root = declaredUri? mixedDocument)
    (by decide +kernel)
  rw [Bool.and_eq_true, decide_eq_true_eq, decide_eq_true_eq] at checked
  exact ⟨root, written, checked⟩

/-- Both kinds of data come back in their places, as attachments. -/
theorem binary_echo_mixed :
    ∃ (data : DataSource) (echo : Envelope) (left : IdSupply),
      decodeMessage .dataSource mixedMessage = .ok (.data data) ∧
      encodeMessage .dataSource (.data data) .soap11 true unaryIds = .ok (echo, left) ∧
      echo.mtom = true ∧ echo.attachments.length = 2 ∧
      (outermost isBinaryName echo.bodyNodes).map
        (fun binary => decode .dataSource (.ofElement binary) echo) =
          [.ok (.data ⟨defaultContentType, [7, 8]⟩), .ok (.data ⟨"b", [1, 2, 3]⟩)] := by
  let nodes := [attachedNote.toNode, (Element.ofName "x" [heldNote.toNode]).toNode]
  have faultFree : Body.FaultFree { nodes } := by
    have elements : elementsOf nodes = [attachedNote, .ofName "x" [heldNote.toNode]] := rfl
    simp only [Body.FaultFree, elements, List.forall_mem_cons]
    exact ⟨by decide, by decide, List.forall_mem_nil _⟩
  have carriers : outermost isCarrierName nodes = [attachedNote, heldNote] := rfl
  have held : ∀ carrier ∈ outermost isCarrierName nodes, Held mixedMessage carrier := by
    rw [carriers]
    intro carrier member
    rcases List.mem_cons.1 member with rfl | later
    · exact @Held.attached mixedMessage _ [] [] _ [7, 8] rfl rfl rfl rfl rfl
    · rw [List.mem_singleton.1 later]
      exact @Held.within mixedMessage heldNote [1, 2, 3] rfl rfl rfl
  have readsBack : ∀ document, selfContained mixedMessage = .ok document →
      document.ReadsBack := by
    intro document known
    have same : selfContained mixedMessage = .ok mixedDocument := rfl
    rw [← Except.ok.inj (same.symm.trans known)]
    exact readsBack_mixedDocument
  obtain ⟨data, echo, left, carried, sent, received, mtom, _, _, count, before, after⟩ :=
    @binary_echo mixedMessage { nodes } .soap11 unaryIds rfl faultFree held rfl readsBack
      injective_unaryIds
  exact ⟨data, echo, left, sent, received, mtom, count, after.trans (before.symm.trans rfl)⟩

end Codec

end SoapDispatch
