import SoapDispatch.Soap.Message

/-!
# Tree form of messages

Reading the element of an envelope gives the envelope back. Reading takes the first child of a local
name, keeps no blank text and takes a `Fault` in the body for a fault, so an envelope has to be
sound and its body free of such elements; the flag for optimised messages and the attachments are no
part of the element.
-/

namespace SoapDispatch

namespace Xml

/-- Characters without a colon are all that follows their last one. -/
theorem afterLastColon_of_notMem {chars : List Char} (plain : ':' ∉ chars) :
    afterLastColon chars = chars := by
  cases chars with
  | nil => rfl
  | cons c rest => rw [afterLastColon, if_neg plain]

/-- What follows the last colon does not depend on what stands before it. -/
theorem afterLastColon_append {base : List Char} (plain : ':' ∉ base) (qualifier : List Char) :
    afterLastColon (qualifier ++ ':' :: base) = base := by
  induction qualifier with
  | nil => rw [List.nil_append, afterLastColon, if_pos (by simp), afterLastColon_of_notMem plain]
  | cons c rest inductionHypothesis =>
    rw [List.cons_append, afterLastColon, if_pos (by simp), inductionHypothesis]

/-- The elements among the nodes of elements are those elements. -/
@[simp] theorem elementsOf_map_toNode (elements : List Element) :
    elementsOf (elements.map Element.toNode) = elements := by
  induction elements with
  | nil => rfl
  | cons element rest inductionHypothesis =>
    rw [List.map_cons, elementsOf, List.filterMap_cons_some (Element.asElement?_toNode element)]
    exact congrArg (element :: ·) inductionHypothesis

@[simp] theorem Element.child?_ofName_nil (name wanted : String) :
    (ofName name []).child? wanted = none := rfl

/-- A child is looked for among the nodes from the first one on. -/
@[simp] theorem Element.child?_ofName_cons (name wanted : String) (child : Element)
    (rest : List Node) : (ofName name (child.toNode :: rest)).child? wanted =
      if child.localName = wanted then some child else (ofName name rest).child? wanted := by
  have elements : elementsOf (child.toNode :: rest) = child :: elementsOf rest := rfl
  simp only [child?, ofName, elements, List.find?_cons]
  by_cases same : child.localName = wanted
  · rw [if_pos same, beq_iff_eq.2 same]
  · rw [if_neg same, beq_eq_false_iff_ne.2 same]

@[simp] theorem Element.localName_ofName (name : String) (children : List Node) :
    (ofName name children).localName = Xml.localName name := rfl

@[simp] theorem Element.localName_ofText (name text : String) :
    (ofText name text).localName = Xml.localName name := rfl

end Xml

namespace Soap

open SoapDispatch.Xml

/-- The local part of a name of the envelope's vocabulary. -/
theorem localName_envelopeName (base : String) (plain : ':' ∉ base.toList) :
    localName (envelopeName base) = base := by
  have split : (envelopeName base).toList = envelopeQualifier.toList ++ ':' :: base.toList := by
    simp [envelopeName, String.toList_append]
  rw [localName, split, afterLastColon_append plain, String.ofList_toList]

/-! ## Faults -/

/-- Every code is read from what is written for it. -/
theorem FaultCode.ofText?_name (code : FaultCode) (protocol : Protocol) :
    FaultCode.ofText? (envelopeName (code.name protocol)) = some code := by
  cases code <;> cases protocol <;> decide

namespace Fault

/-- The parts of a fault element have the local names that they are looked for under. -/
theorem localNames_parts :
    (localName "faultcode" = "faultcode" ∧ localName "faultstring" = "faultstring" ∧
      localName "detail" = "detail") ∧
    localName (envelopeName "Code") = "Code" ∧ localName (envelopeName "Value") = "Value" ∧
      localName (envelopeName "Reason") = "Reason" ∧
        localName (envelopeName "Text") = "Text" ∧
          localName (envelopeName "Detail") = "Detail" :=
  ⟨⟨localName_of_not_mem (by decide), localName_of_not_mem (by decide),
      localName_of_not_mem (by decide)⟩,
    localName_envelopeName _ (by decide), localName_envelopeName _ (by decide),
    localName_envelopeName _ (by decide), localName_envelopeName _ (by decide),
    localName_envelopeName _ (by decide)⟩

/-- The text of the element that holds a reason is the reason. -/
@[simp] theorem text?_reasonText (reason : String) : (reasonText reason).text? = some reason := by
  simp [reasonText, Element.text?, Node.characters?, String.join]

@[simp] theorem localName_reasonText (reason : String) :
    (reasonText reason).localName = localName (envelopeName "Text") := rfl

/-- A fault is read when its parts are found. -/
theorem ofElement_of_texts {element : Element} {fault : Fault} (protocol : Protocol)
    (code : textAt? element "faultcode" "Code" "Value" = some (fault.writtenCode protocol))
    (reason : (textAt? element "faultstring" "Reason" "Text").getD "" = fault.reason)
    (detail : ((element.child? "detail").or (element.child? "Detail")).bind Element.text? =
      fault.detail) : ofElement element = .ok fault := by
  rw [ofElement, code]
  simp only [writtenCode, FaultCode.ofText?_name, reason, detail]

/-- A fault is read from its element in SOAP 1.1. -/
theorem ofElement_toElement11 (fault : Fault) :
    ofElement (fault.toElement .soap11) = .ok fault := by
  obtain ⟨⟨code, string, detail⟩, _⟩ := localNames_parts
  refine ofElement_of_texts .soap11 ?_ ?_ ?_
  · simp [textAt?, toElement, parts11, code]
  · simp [textAt?, toElement, parts11, code, string]
  · cases known : fault.detail <;>
      simp [toElement, parts11, known, code, string, detail]

/-- A fault is read from its element in SOAP 1.2. -/
theorem ofElement_toElement12 (fault : Fault) :
    ofElement (fault.toElement .soap12) = .ok fault := by
  obtain ⟨_, code, value, reason, text, detail⟩ := localNames_parts
  refine ofElement_of_texts .soap12 ?_ ?_ ?_
  · cases known : fault.detail <;>
      simp [textAt?, toElement, parts12, known, code, value, reason, detail]
  · cases known : fault.detail <;>
      simp [textAt?, toElement, parts12, known, code, reason, text, detail]
  · cases known : fault.detail <;>
      simp [toElement, parts12, known, code, reason, detail]

/-- A fault is read from its element in either layout. -/
theorem ofElement_toElement (fault : Fault) (protocol : Protocol) :
    ofElement (fault.toElement protocol) = .ok fault := by
  cases protocol with
  | soap11 => exact fault.ofElement_toElement11
  | soap12 => exact fault.ofElement_toElement12

end Fault

/-! ## Envelopes -/

/-- A body without blank text. -/
def Body.Clean (body : Body) : Prop :=
  ∀ node ∈ body.nodes, isBlankNode node = false

/-- A body without an element that would be taken for a fault. -/
def Body.FaultFree (body : Body) : Prop :=
  ∀ element ∈ elementsOf body.nodes, element.localName ≠ "Fault"

namespace Body

theorem clean_ofNodes (nodes : List Node) : (ofNodes nodes).Clean :=
  fun _ kept => not_isBlankNode_of_mem_ofNodes kept

/-- Nodes that are clean already stay as they are. -/
theorem Clean.ofNodes_eq {body : Body} (clean : body.Clean) : ofNodes body.nodes = body := by
  have kept : body.nodes.filter (fun node => !isBlankNode node) = body.nodes :=
    List.filter_eq_self.2 fun node member => by simp [clean node member]
  rw [ofNodes, kept]

/-- A body is built from its nodes one by one, blank text being passed over. -/
theorem nodes_ofNodes_cons (node : Node) (rest : List Node) :
    (ofNodes (node :: rest)).nodes =
      if isBlankNode node then (ofNodes rest).nodes else node :: (ofNodes rest).nodes := by
  cases blank : isBlankNode node <;> simp [ofNodes, blank]

/-- Blank text is no element. -/
theorem asElement?_of_isBlankNode {node : Node} (blank : isBlankNode node = true) :
    node.asElement? = none := by
  cases node with
  | element tag children => cases blank
  | text | cdata | comment | instruction => rfl

/-- Leaving blank text out leaves out no element. -/
theorem elementsOf_ofNodes (nodes : List Node) :
    elementsOf (ofNodes nodes).nodes = elementsOf nodes := by
  induction nodes with
  | nil => rfl
  | cons node rest inductionHypothesis =>
    rw [nodes_ofNodes_cons]
    split
    · next blank =>
      have none := List.filterMap_cons_none (l := rest) (asElement?_of_isBlankNode blank)
      rw [inductionHypothesis, elementsOf, elementsOf, none]
    · have shown (nodes : List Node) : elementsOf (node :: nodes) =
          node.asElement?.toList ++ elementsOf nodes := by
        cases node <;> rfl
      rw [shown, shown, inductionHypothesis]

end Body

namespace Envelope

/-- An envelope whose body, if there is one, has nodes but no blank text. -/
def Sound (envelope : Envelope) : Prop :=
  ∀ body, envelope.content = .body body → body.isEmpty = false ∧ body.Clean

/-- The envelope as far as its element tells. -/
def bare (envelope : Envelope) : Envelope :=
  { envelope with mtom := false, attachments := [] }

/-- The content of a sound envelope is read from its body element. -/
theorem Sound.contentOf_bodyNodes {envelope : Envelope} (sound : envelope.Sound)
    (faultFree : ∀ body, envelope.body? = some body → body.FaultFree) (name : String) :
    contentOf (.ofName name envelope.bodyNodes) = .ok envelope.content := by
  obtain ⟨protocol, mtom, headers, content, attachments⟩ := envelope
  cases content with
  | empty => rfl
  | body body =>
    obtain ⟨filled, clean⟩ := sound body rfl
    have none : (Element.ofName name body.nodes).child? "Fault" = none :=
      List.find?_eq_none.2 fun element member => by simpa using faultFree body rfl element member
    have kept : Body.ofNodes (Element.ofName name body.nodes).children = body := clean.ofNodes_eq
    simp only [contentOf, bodyNodes, none, kept, Body.toContent, filled]
    rfl
  | fault fault =>
    have found : (Element.ofName name [(fault.toElement protocol).toNode]).child? "Fault" =
        some (fault.toElement protocol) := by
      simp [Fault.toElement, localName_envelopeName "Fault" (by decide)]
    simp only [contentOf, bodyNodes, found, Fault.ofElement_toElement]
    rfl

/-- The version of SOAP is told by the root of the element. -/
theorem declaredUri?_toElement (envelope : Envelope) :
    declaredUri? envelope.toElement = some envelope.protocol.envelopeUri := by
  have root : declaredUri? envelope.toElement =
      declaredUri? (new envelope.protocol).toElement := rfl
  rw [root]
  cases envelope.protocol <;> decide

/-- The local names of the envelope's two parts. -/
theorem localNames_parts : localName (envelopeName "Header") = "Header" ∧
    localName (envelopeName "Body") = "Body" :=
  ⟨localName_envelopeName _ (by decide), localName_envelopeName _ (by decide)⟩

/-- The children of the envelope's element are its parts. -/
theorem child?_toElement (envelope : Envelope) (wanted : String) :
    envelope.toElement.child? wanted =
      (Element.ofName "" (envelope.parts.map Element.toNode)).child? wanted := rfl

/-- The body element is found behind the header element. -/
theorem child?_body (envelope : Envelope) : envelope.toElement.child? "Body" =
    some (.ofName (envelopeName "Body") envelope.bodyNodes) := by
  obtain ⟨header, body⟩ := localNames_parts
  cases none : envelope.headers.isEmpty <;> simp [child?_toElement, parts, none, header, body]

/-- The headers are those of the header element, if there is one. -/
theorem headers_toElement (envelope : Envelope) :
    ((envelope.toElement.child? "Header").elim [] fun header => elementsOf header.children) =
      envelope.headers := by
  obtain ⟨header, body⟩ := localNames_parts
  cases none : envelope.headers.isEmpty with
  | true =>
    have noHeaders : envelope.headers = [] := List.isEmpty_iff.1 none
    simp [child?_toElement, parts, noHeaders, body]
  | false =>
    have children : (Element.ofName (envelopeName "Header")
        (envelope.headers.map Element.toNode)).children = envelope.headers.map Element.toNode := rfl
    simp [child?_toElement, parts, none, header, children]

/-- Reading the element of a sound envelope gives the envelope back, but for its flag and its
attachments. -/
theorem Sound.ofElement_toElement {envelope : Envelope} (sound : envelope.Sound)
    (faultFree : ∀ body, envelope.body? = some body → body.FaultFree) :
    ofElement envelope.toElement = .ok envelope.bare := by
  have root : envelope.toElement.localName = "Envelope" :=
    localName_envelopeName "Envelope" (by decide)
  simp only [ofElement, root, ne_eq, not_true_eq_false, if_false, declaredUri?_toElement,
    Protocol.ofUri?_envelopeUri, child?_body, sound.contentOf_bodyNodes faultFree,
    headers_toElement]
  rfl

/-- A body that is put into an envelope has nodes. -/
theorem sound_of_toContent {envelope : Envelope} {body : Body} (clean : body.Clean)
    (content : envelope.content = body.toContent) : envelope.Sound := by
  intro other known
  rw [content, Body.toContent] at known
  split at known
  · exact nomatch known
  · next filled =>
    cases known
    exact ⟨by simpa using filled, clean⟩

/-- What is read of a body element is clean, and free of what would be taken for a fault. -/
theorem contentOf_eq_ok {element : Element} {content : Content}
    (read : contentOf element = .ok content) :
    (∃ fault, content = .fault fault) ∨
      (Body.ofNodes element.children).FaultFree ∧
        content = (Body.ofNodes element.children).toContent := by
  unfold contentOf at read
  split at read
  · next child _ =>
    left
    rcases known : Fault.ofElement child with cause | fault
    · rw [known] at read
      exact nomatch read
    · rw [known] at read
      cases read
      exact ⟨fault, rfl⟩
  · next absent =>
    right
    cases read
    refine ⟨fun child member => ?_, rfl⟩
    rw [Body.elementsOf_ofNodes] at member
    simpa using List.find?_eq_none.1 absent child member

/-- What is read from an element is read from its header and its body. -/
theorem exists_body_of_ofElement {root : Element} {envelope : Envelope}
    (read : ofElement root = .ok envelope) :
    ∃ body, root.child? "Body" = some body ∧ contentOf body = .ok envelope.content ∧
      envelope.headers = (root.child? "Header").elim [] fun header => elementsOf header.children := by
  unfold ofElement at read
  iterate 3
    split at read
    · exact nomatch read
  split at read
  · exact nomatch read
  · next body found =>
    split at read
    · exact nomatch read
    · next content known =>
      cases read
      exact ⟨body, found, known, rfl⟩

/-- What is read from an element has no flag and no attachments, and the content of its body. -/
theorem ofElement_eq_ok {root : Element} {envelope : Envelope}
    (read : ofElement root = .ok envelope) :
    envelope.bare = envelope ∧ ∃ body, contentOf body = .ok envelope.content := by
  unfold ofElement at read
  -- Each branch but the innermost is a refusal.
  iterate 4
    split at read
    · exact nomatch read
  split at read
  · exact nomatch read
  · next body _ _ content known =>
    cases read
    exact ⟨rfl, body, known⟩

/-- What is read from an element is sound. -/
theorem sound_of_ofElement {root : Element} {envelope : Envelope}
    (read : ofElement root = .ok envelope) : envelope.Sound := by
  obtain ⟨_, body, content⟩ := ofElement_eq_ok read
  rcases contentOf_eq_ok content with ⟨fault, known⟩ | ⟨_, known⟩
  · intro body other
    exact nomatch known.symm.trans other
  · exact sound_of_toContent (Body.clean_ofNodes _) known

/-- What is read from an element is read from its own element again. -/
theorem ofElement_toElement_of_ofElement {root : Element} {envelope : Envelope}
    (read : ofElement root = .ok envelope) : ofElement envelope.toElement = .ok envelope := by
  obtain ⟨bare, body, content⟩ := ofElement_eq_ok read
  have faultFree : ∀ body, envelope.body? = some body → body.FaultFree := by
    intro other known
    rw [body?_eq_some_iff] at known
    rcases contentOf_eq_ok content with ⟨fault, carried⟩ | ⟨free, carried⟩
    · cases carried.symm.trans known
    · rw [carried, Body.toContent] at known
      split at known
      · cases known
      · cases known
        exact free
  rw [(sound_of_ofElement read).ofElement_toElement faultFree, bare]

end Envelope

end Soap

end SoapDispatch
