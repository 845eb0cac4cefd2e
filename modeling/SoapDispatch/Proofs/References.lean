import SoapDispatch.Proofs.BinaryEcho

/-!
# References of messages

A message refers to its attachments by elements that may stand anywhere in its headers and its
content. `Envelope.references` lists them all, those within other references included, and a message
is closed if each of them names one of its attachments.

Attaching never takes anything away, so an optimised message whose data is encoded anew is closed if
it was free of references before.
-/

namespace SoapDispatch

open SoapDispatch.Xml SoapDispatch.Soap SoapDispatch.Codec

/-! ## All elements of a forest -/

namespace Xml

mutual

/-- A node that is an element, and all elements within it. -/
def elementsAt : Node → List Element
  | .element tag children => ⟨tag, children⟩ :: elementsWithin children
  | _ => []

/-- All elements of a forest, in document order. -/
def elementsWithin : List Node → List Element
  | [] => []
  | node :: rest => elementsAt node ++ elementsWithin rest

end

section Within

variable {kind : String → Bool}

@[simp] theorem elementsWithin_nil : elementsWithin [] = [] := rfl

/-- An element comes before those within it, and these come before those behind it. -/
theorem elementsWithin_element (tag : Tag) (children rest : List Node) :
    elementsWithin (.element tag children :: rest) =
      ⟨tag, children⟩ :: (elementsWithin children ++ elementsWithin rest) := by
  rw [elementsWithin, elementsAt, List.cons_append]

/-- Only elements count. -/
theorem elementsWithin_other {node : Node} (none : node.asElement? = none) (rest : List Node) :
    elementsWithin (node :: rest) = elementsWithin rest := by
  cases node with
  | element tag children => exact nomatch none
  | text | cdata | comment | instruction => rfl

@[simp] theorem elementsWithin_append (first second : List Node) :
    elementsWithin (first ++ second) = elementsWithin first ++ elementsWithin second := by
  induction first with
  | nil => rfl
  | cons node rest inductionHypothesis =>
    rw [List.cons_append, elementsWithin, elementsWithin, inductionHypothesis, List.append_assoc]

/-- Leaving blank text out leaves out no element. -/
@[simp] theorem elementsWithin_ofNodes (nodes : List Node) :
    elementsWithin (Body.ofNodes nodes).nodes = elementsWithin nodes := by
  induction nodes with
  | nil => rfl
  | cons node rest inductionHypothesis =>
    rw [Body.nodes_ofNodes_cons]
    split
    · next blank =>
      rw [inductionHypothesis, elementsWithin_other (Body.asElement?_of_isBlankNode blank)]
    · rw [elementsWithin, elementsWithin, inductionHypothesis]

/-- There are outermost elements of a kind wherever there are elements of that kind. -/
theorem outermost_eq_nil_iff {nodes : List Node} : outermost kind nodes = [] ↔
    ∀ element ∈ elementsWithin nodes, kind element.tag.name = false := by
  induction nodes using forestInduction with
  | nil => simp
  | element tag children rest inside behind =>
    rw [outermost_element_eq_nil_iff, inside, behind, elementsWithin_element, List.forall_mem_cons,
      List.forall_mem_append]
  | other node rest none behind => rw [outermost_other none, behind, elementsWithin_other none]

/-- What is not within an element at the top of a forest counts for nothing. -/
theorem outermost_map_elementsOf (nodes : List Node) :
    outermost kind ((elementsOf nodes).map Element.toNode) = outermost kind nodes := by
  induction nodes using forestInduction with
  | nil => rfl
  | element tag children rest _ behind =>
    have first : elementsOf (.element tag children :: rest) = ⟨tag, children⟩ :: elementsOf rest :=
      rfl
    rw [first, List.map_cons, Element.toNode, outermost_element, outermost_element, behind]
  | other node rest none behind =>
    have same : elementsOf (node :: rest) = elementsOf rest := List.filterMap_cons_none none
    rw [same, behind, outermost_other none]

/-- A forest that is free of a kind is free of it within the elements at its top. -/
theorem free_of_mem_elementsOf {nodes : List Node} {element : Element}
    (free : outermost kind nodes = []) (member : element ∈ elementsOf nodes) :
    outermost kind element.children = [] := by
  induction nodes using forestInduction with
  | nil => exact absurd member List.not_mem_nil
  | element tag children rest _ behind =>
    obtain ⟨_, within, later⟩ := outermost_element_eq_nil_iff.1 free
    rcases List.mem_cons.1 member with rfl | last
    · exact within
    · exact behind later last
  | other node rest none behind =>
    have same : elementsOf (node :: rest) = elementsOf rest := List.filterMap_cons_none none
    exact behind (outermost_other none rest ▸ free) (same ▸ member)

end Within

end Xml

/-! ## References -/

namespace Soap

/-- No part of a fault is a reference. -/
theorem Fault.outermost_toElement (fault : Fault) (protocol : Protocol) :
    outermost isIncludeName [(fault.toElement protocol).toNode] = [] := by
  have names11 : isIncludeName "faultcode" = false ∧ isIncludeName "faultstring" = false ∧
      isIncludeName "detail" = false := by decide
  have names12 : isIncludeName (envelopeName "Fault") = false ∧
      isIncludeName (envelopeName "Code") = false ∧ isIncludeName (envelopeName "Value") = false ∧
        isIncludeName (envelopeName "Reason") = false ∧
          isIncludeName (envelopeName "Text") = false ∧
            isIncludeName (envelopeName "Detail") = false := by decide
  have text (content : String) : outermost isIncludeName [.text content] = [] := rfl
  cases protocol <;> cases known : fault.detail <;>
    simp [toElement, parts11, parts12, reasonText, known, Element.ofText, Element.ofName,
      Element.toNode, outermost_element_eq_nil_iff, text, names11, names12]

namespace Envelope

/-- All references of a message. -/
def references (envelope : Envelope) : List Element :=
  (elementsWithin envelope.toElement.children).filter fun element => isIncludeName element.tag.name

/-- Whether a reference names an attachment of a message. -/
def Resolves (envelope : Envelope) (reference : Element) : Prop :=
  ∃ href, reference.tag.attributes.get? "href" = some href ∧
    (envelope.attachment? (contentIdOf href)).isSome = true

/-- Whether every reference of a message names one of its attachments. -/
def Closed (envelope : Envelope) : Prop :=
  ∀ reference ∈ envelope.references, envelope.Resolves reference

variable {envelope : Envelope}

/-- References are found in the headers and in the content. -/
theorem references_eq (envelope : Envelope) : envelope.references =
    (elementsWithin (envelope.headers.map Element.toNode) ++
      elementsWithin envelope.bodyNodes).filter fun element => isIncludeName element.tag.name := by
  have header : isIncludeName (envelopeName "Header") = false := by decide
  have body : isIncludeName (envelopeName "Body") = false := by decide
  cases empty : envelope.headers.isEmpty with
  | true =>
    have none : envelope.headers = [] := List.isEmpty_iff.1 empty
    simp [references, toElement, parts, none, Element.toNode, Element.ofName,
      elementsWithin_element, body]
  | false =>
    simp [references, toElement, parts, empty, Element.toNode, Element.ofName,
      elementsWithin_element, header, body]

/-- A message without references has none in its headers and none in its content. -/
theorem references_eq_nil_iff : envelope.references = [] ↔
    outermost isIncludeName (envelope.headers.map Element.toNode) = [] ∧
      outermost isIncludeName envelope.bodyNodes = [] := by
  rw [references_eq, List.filter_eq_nil_iff, List.forall_mem_append, outermost_eq_nil_iff,
    outermost_eq_nil_iff]
  simp only [Bool.not_eq_true]

/-- A message is closed if its headers and its content are. -/
theorem closed_iff : envelope.Closed ↔
    ∀ element, element ∈ elementsWithin (envelope.headers.map Element.toNode) ∨
      element ∈ elementsWithin envelope.bodyNodes →
        isIncludeName element.tag.name = true → envelope.Resolves element := by
  rw [Closed, references_eq]
  simp only [List.mem_filter, List.mem_append, and_imp]

end Envelope

end Soap

/-! ## References of messages that are read -/

namespace Codec

/-- Whether an element refers to an attachment is told by its local name. -/
theorem isIncludeName_localName (name : String) :
    isIncludeName (localName name) = isIncludeName name := by
  rw [isIncludeName, localName_localName, isIncludeName]

end Codec

namespace Xml

/-- Elements of one plain form have references within them or not alike. -/
theorem Element.free_iff_of_plain {element other : Element} (same : element.plain = other.plain) :
    outermost isIncludeName element.children = [] ↔
      outermost isIncludeName other.children = [] := by
  have forms : plainNodes element.children = plainNodes other.children :=
    (List.cons.inj (congrArg Element.children same)).2
  rw [← List.map_eq_nil_iff, ← outermost_plainNodes isIncludeName_localName, forms,
    outermost_plainNodes isIncludeName_localName, List.map_eq_nil_iff]

/-- Children of a name are found alike in elements of one plain form. -/
theorem Element.exists_child_of_plain {element other child : Element} {name : String}
    (same : element.plain = other.plain) (found : element.child? name = some child) :
    ∃ twin, other.child? name = some twin ∧ child.plain = twin.plain := by
  have forms : (other.child? name).map Element.plain = some child.plain := by
    rw [← child?_plain, ← same, child?_plain, found, Option.map_some]
  obtain ⟨twin, known, equal⟩ := Option.map_eq_some_iff.1 forms
  exact ⟨twin, known, equal.symm⟩

end Xml

namespace Soap.Envelope

/-- Whether no reference stands in the parts of an element that an envelope is read from. A fault
takes the place of whatever else is in the body. -/
def FreeToRead (root : Element) : Prop :=
  (∀ header, root.child? "Header" = some header →
    outermost isIncludeName header.children = []) ∧
  ∀ body, root.child? "Body" = some body → body.child? "Fault" = none →
    outermost isIncludeName body.children = []

/-- A message that is read has references if there are some where it is read from. -/
theorem references_eq_nil_iff_of_ofElement {root : Element} {message : Envelope}
    (read : ofElement root = .ok message) : message.references = [] ↔ FreeToRead root := by
  obtain ⟨body, found, content, headers⟩ := exists_body_of_ofElement read
  have front : outermost isIncludeName (message.headers.map Element.toNode) = [] ↔
      ∀ header, root.child? "Header" = some header →
        outermost isIncludeName header.children = [] := by
    rw [headers]
    cases root.child? "Header" with
    | none => simp
    | some header => simp [outermost_map_elementsOf]
  have back : outermost isIncludeName message.bodyNodes = [] ↔
      (body.child? "Fault" = none → outermost isIncludeName body.children = []) := by
    unfold contentOf at content
    split at content
    · next child present =>
      obtain ⟨fault, _, carried⟩ := exists_of_map_eq_ok content
      have none : outermost isIncludeName message.bodyNodes = [] := by
        rw [bodyNodes, ← carried]
        exact fault.outermost_toElement message.protocol
      simp [none, present]
    · next absent =>
      have same : message.setBody (.ofNodes body.children) = message := by
        rw [setBody, Except.ok.inj content]
      rw [← same, bodyNodes_setBody, outermost_ofNodes]
      simp [absent]
  rw [references_eq_nil_iff, front, back, FreeToRead]
  simp [found]

/-- Whether there are references to be read depends on the plain form alone. -/
theorem FreeToRead.of_plain {root other : Element} (free : FreeToRead other)
    (same : root.plain = other.plain) : FreeToRead root := by
  constructor
  · intro header found
    obtain ⟨twin, known, equal⟩ := Element.exists_child_of_plain same found
    exact (Element.free_iff_of_plain equal).2 (free.1 twin known)
  · intro body found absent
    obtain ⟨twin, known, equal⟩ := Element.exists_child_of_plain same found
    refine (Element.free_iff_of_plain equal).2 (free.2 twin known ?_)
    have none := congrArg (·.child? "Fault") equal
    simp only [Element.child?_plain, absent, Option.map_none] at none
    exact Option.map_eq_none_iff.1 none.symm

/-- Nothing is read from an element without references that has some. -/
theorem freeToRead_of_free {root : Element} (free : outermost isIncludeName root.children = []) :
    FreeToRead root := by
  have within {name : String} {child : Element} (found : root.child? name = some child) :
      outermost isIncludeName child.children = [] :=
    free_of_mem_elementsOf free (List.mem_of_find?_eq_some found)
  exact ⟨fun header found => within found, fun body found _ => within found⟩

/-- A message read from an element of the plain form of another message has references if that one
has some. -/
theorem Sound.references_eq_nil_iff {envelope message : Envelope} {root : Element}
    (sound : envelope.Sound) (faultFree : ∀ body, envelope.body? = some body → body.FaultFree)
    (same : root.plain = envelope.toElement.plain) (read : ofElement root = .ok message) :
    message.references = [] ↔ envelope.references = [] := by
  have own : envelope.bare.references = [] ↔ FreeToRead envelope.toElement :=
    references_eq_nil_iff_of_ofElement (sound.ofElement_toElement faultFree)
  have bare : envelope.bare.references = envelope.references := rfl
  rw [references_eq_nil_iff_of_ofElement read, ← bare, own]
  exact ⟨fun free => free.of_plain same.symm, fun free => free.of_plain same⟩

end Soap.Envelope

/-! ## References made by encoding anew -/

namespace Codec

/-- What encoding a forest anew leaves behind: an optimised message that has every attachment it had
before, and a forest whose references name attachments of that message. -/
structure Reattached (envelope message : Envelope) (replaced : List Node) : Prop where
  mtom : message.mtom = true
  kept : ∀ contentId, (envelope.attachment? contentId).isSome = true →
    (message.attachment? contentId).isSome = true
  resolves : ∀ element ∈ elementsWithin replaced, isIncludeName element.tag.name = true →
    message.Resolves element

namespace Reattached

variable {envelope between message : Envelope} {front back : List Node}

/-- Nothing is left behind of a forest that is empty. -/
theorem nil (mtom : envelope.mtom = true) : Reattached envelope envelope [] :=
  ⟨mtom, fun _ known => known, fun _ member => absurd member List.not_mem_nil⟩

/-- References go on naming attachments when more is attached. -/
theorem append (head : Reattached envelope between front)
    (tail : Reattached between message back) : Reattached envelope message (front ++ back) where
  mtom := tail.mtom
  kept contentId known := tail.kept contentId (head.kept contentId known)
  resolves element member refers := by
    rw [elementsWithin_append] at member
    rcases List.mem_append.1 member with first | later
    · obtain ⟨href, known, attached⟩ := head.resolves element first refers
      exact ⟨href, known, tail.kept _ attached⟩
    · exact tail.resolves element later refers

/-- A node that is no element stays as it is. -/
theorem other {node : Node} (mtom : envelope.mtom = true) (none : node.asElement? = none) :
    Reattached envelope envelope [node] where
  mtom
  kept _ known := known
  resolves element member := by
    rw [elementsWithin_other none] at member
    exact absurd member List.not_mem_nil

/-- An element that is no reference adds none to those within it. -/
theorem element {tag : Tag} (plain : isIncludeName tag.name = false)
    (inside : Reattached envelope message front) :
    Reattached envelope message [.element tag front] where
  mtom := inside.mtom
  kept := inside.kept
  resolves element member refers := by
    rw [elementsWithin_element, elementsWithin_nil, List.append_nil] at member
    rcases List.mem_cons.1 member with rfl | within
    · exact absurd refers (by simp [plain])
    · exact inside.resolves element within refers

/-- Encoding data for an optimised message attaches what the new element refers to. -/
theorem encodeData (data : DataSource) (ids : IdSupply) (mtom : envelope.mtom = true) :
    Reattached envelope (Codec.encodeData data envelope ids).2.1
      [(Codec.encodeData data envelope ids).1.toNode] := by
  have binary : isIncludeName "pmo:Binary" = false := by decide
  simp only [Codec.encodeData, mtom, if_true]
  refine element binary ⟨mtom, fun contentId known => ?_, fun reference member _ => ?_⟩
  · rw [Envelope.attachment?, Envelope.attach, Dictionary.get?_insert]
    split
    · rfl
    · exact known
  · have only : reference ∈ [includeElement ids.next] := member
    rw [List.mem_singleton.1 only]
    refine ⟨"cid:" ++ ids.next, rfl, ?_⟩
    rw [contentIdOf_cid, Envelope.attachment?, Envelope.attach, Dictionary.get?_insert_self]
    rfl

end Reattached

/-- Encoding anew a forest without references makes none but to what it attaches. -/
theorem reattached_of_externalizeNodes {envelope message : Envelope} {ids left : IdSupply}
    {nodes replaced : List Node} (mtom : envelope.mtom = true)
    (free : outermost isIncludeName nodes = [])
    (done : externalizeNodes envelope ids nodes = .ok (replaced, message, left)) :
    Reattached envelope message replaced := by
  induction nodes using forestInduction generalizing envelope message ids left replaced with
  | nil =>
    cases done
    exact .nil mtom
  | element tag children rest inside behind =>
    obtain ⟨plain, within, later⟩ := outermost_element_eq_nil_iff.1 free
    rw [externalizeNodes] at done
    obtain ⟨⟨first, between, supply⟩, head, tail⟩ := exists_of_bind_eq_ok done
    obtain ⟨⟨others, last, remaining⟩, rest_eq, made⟩ := exists_of_bind_eq_ok tail
    cases made
    have front : Reattached envelope between [first] := by
      have unreferenced : (Element.mk tag children).child? "Include" = none :=
        child?_eq_none_of_free within
      rw [externalizeNode] at head
      split at head
      · simp only [unreferenced] at head
        obtain ⟨data, _, made⟩ := exists_of_bind_eq_ok head
        cases made
        exact .encodeData data ids mtom
      · obtain ⟨⟨nodes, changed, drawn⟩, inner, made⟩ := exists_of_bind_eq_ok head
        cases made
        exact (inside mtom within inner).element plain
    exact front.append (behind front.mtom later rest_eq)
  | other node rest none behind =>
    rw [externalizeNodes_other none] at done
    obtain ⟨⟨others, last, remaining⟩, later, made⟩ := exists_of_map_eq_ok done
    cases made
    exact (Reattached.other mtom none).append
      (behind mtom (outermost_other none rest ▸ free) later)

/-- No reference is left in a forest that has been inlined. -/
theorem free_of_inlineNodes {envelope : Envelope} {nodes inlined : List Node}
    (done : inlineNodes envelope nodes = .ok inlined) : outermost isIncludeName inlined = [] := by
  induction nodes using forestInduction generalizing inlined with
  | nil =>
    cases done
    rfl
  | element tag children rest inside behind =>
    rw [inlineNodes] at done
    obtain ⟨first, head, tail⟩ := exists_of_bind_eq_ok done
    obtain ⟨others, later, made⟩ := exists_of_bind_eq_ok tail
    cases made
    rw [inlineNode] at head
    split at head
    · obtain ⟨bytes, _, made⟩ := exists_of_bind_eq_ok head
      cases made
      rw [outermost_other rfl, behind later]
    · next plain =>
      obtain ⟨kept, within, made⟩ := exists_of_bind_eq_ok head
      cases made
      exact outermost_element_eq_nil_iff.2 ⟨by simpa using plain, inside within, behind later⟩
  | other node rest none behind =>
    rw [inlineNodes_other envelope none] at done
    obtain ⟨others, later, made⟩ := exists_of_map_eq_ok done
    cases made
    rw [outermost_other none, behind later]

end Codec

end SoapDispatch
