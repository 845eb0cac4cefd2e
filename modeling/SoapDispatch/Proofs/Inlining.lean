import SoapDispatch.Proofs.Replacing
import SoapDispatch.Proofs.RoundTrip

/-!
# Messages that stand for themselves

What becomes of the data in a forest when every reference is replaced by what it refers to. A
`Binary` element holds its data within, or it refers to an attachment and to nothing else; either
way it holds the same data within afterwards, and no reference is left.
-/

namespace SoapDispatch

open SoapDispatch.Xml SoapDispatch.Soap

/-! ## Characters -/

/-- The character data at the top of a forest, put together. -/
def Xml.charactersOf (nodes : List Node) : String :=
  String.join (nodes.filterMap Node.characters?)

namespace Xml

/-- The text of an element is the character data at the top of its children. -/
theorem Element.getD_text? (element : Element) :
    element.text?.getD "" = charactersOf element.children := by
  unfold text? charactersOf
  cases element.children.filterMap Node.characters? <;> rfl

theorem charactersOf_append (first second : List Node) :
    charactersOf (first ++ second) = charactersOf first ++ charactersOf second := by
  rw [charactersOf, List.filterMap_append, String.join_append, charactersOf, charactersOf]

theorem charactersOf_text (content : String) (rest : List Node) :
    charactersOf (.text content :: rest) = content ++ charactersOf rest := by
  have own : Node.characters? (.text content) = some content := rfl
  rw [charactersOf, List.filterMap_cons_some own, String.join_cons, charactersOf]

theorem charactersOf_element (element : Element) (rest : List Node) :
    charactersOf (element.toNode :: rest) = charactersOf rest := by
  have none : element.toNode.characters? = none := rfl
  rw [charactersOf, List.filterMap_cons_none none, charactersOf]

end Xml

namespace Codec

/-! ## Data of one element -/

/-- Whether a name is that of an element carrying data or of a reference. -/
def isCarrierName (name : String) : Bool :=
  isBinaryName name || isIncludeName name

/-- No element is a reference and carries data itself. -/
theorem not_isIncludeName_of_isBinaryName {name : String} (binary : isBinaryName name = true) :
    isIncludeName name = false := by
  rw [isBinaryName, beq_iff_eq] at binary
  rw [isIncludeName, binary]
  decide

/-- The data of an element has the content type that it names, and the bytes that it holds. -/
theorem binaryData_of_bytes {binary : Element} {envelope : Envelope} {bytes : List UInt8}
    (held : binaryBytes binary envelope = .ok bytes) : binaryData binary envelope =
      .ok ⟨(binary.tag.attributes.get? "contentType").getD defaultContentType, bytes⟩ := by
  rw [binaryData, held]
  rfl

/-- A forest without references has no child that is one. -/
theorem child?_eq_none_of_free {element : Element}
    (free : outermost isIncludeName element.children = []) : element.child? "Include" = none := by
  refine List.find?_eq_none.2 fun child member => ?_
  have other := not_kind_of_outermost_eq_nil free child member
  rw [isIncludeName] at other
  simp [Element.localName, other]

/-- An element without a reference holds what its own characters stand for, whatever the message. -/
theorem binaryBytes_of_unreferenced {binary : Element} (envelope : Envelope)
    (unreferenced : binary.child? "Include" = none) : binaryBytes binary envelope =
      (Base64.decode? (Text.removeBlanks (charactersOf binary.children)).toList).elim
        (.error .invalidBase64) .ok := by
  simp only [binaryBytes, unreferenced, Element.getD_text?]
  cases Base64.decode? (Text.removeBlanks (charactersOf binary.children)).toList <;> rfl

/-- The first reference among the children of an element is the one behind those without any. -/
theorem child?_reference {tag : Tag} {before after : List Node} {reference : Element}
    (refers : isIncludeName reference.tag.name = true)
    (free : outermost isIncludeName before = []) :
    (Element.mk tag (before ++ reference.toNode :: after)).child? "Include" = some reference := by
  have elements : elementsOf (before ++ reference.toNode :: after) =
      elementsOf before ++ reference :: elementsOf after := by
    rw [elementsOf, List.filterMap_append, List.filterMap_cons_some reference.asElement?_toNode]
    rfl
  have none : (elementsOf before).find? (fun child => child.localName == "Include") = none :=
    List.find?_eq_none.2 fun child member => by
      simpa [isIncludeName, Element.localName] using not_kind_of_outermost_eq_nil free child member
  rw [Element.child?, elements, List.find?_append, none, Option.none_or]
  exact List.find?_cons_of_pos refers

/-- A `Binary` element that holds data in a message: within, without any reference, or by its only
reference, next to which there are no visible characters. -/
inductive Held (envelope : Envelope) : Element → Prop where
  | within {binary : Element} {bytes : List UInt8}
      (name : isBinaryName binary.tag.name = true)
      (free : outermost isIncludeName binary.children = [])
      (valid : Base64.decode? (Text.removeBlanks (charactersOf binary.children)).toList =
        some bytes) : Held envelope binary
  | attached {tag : Tag} {before after : List Node} {reference : Element} {bytes : List UInt8}
      (name : isBinaryName tag.name = true) (refers : isIncludeName reference.tag.name = true)
      (only : outermost isIncludeName (before ++ after) = [])
      (blank : Text.isBlank (charactersOf (before ++ after)) = true)
      (resolved : resolveInclude reference envelope = .ok bytes) :
      Held envelope ⟨tag, before ++ reference.toNode :: after⟩

theorem Held.named {envelope : Envelope} {binary : Element} (held : Held envelope binary) :
    isBinaryName binary.tag.name = true := by
  cases held with
  | within name => exact name
  | attached name => exact name

/-! ## Inlining -/

/-- An element is inlined in front of what is behind it. -/
theorem inlineNodes_element (envelope : Envelope) (tag : Tag) (children rest : List Node) :
    inlineNodes envelope (.element tag children :: rest) = (do
      let node ←
        if isIncludeName tag.name then
          (resolveInclude ⟨tag, children⟩ envelope).map fun bytes => .text (Base64.encode bytes)
        else (inlineNodes envelope children).map (.element tag)
      let rest ← inlineNodes envelope rest
      .ok (node :: rest)) := by
  rw [inlineNodes, inlineNode]
  split <;> rfl

/-- Only elements change. -/
theorem inlineNodes_other (envelope : Envelope) {node : Node} (none : node.asElement? = none)
    (rest : List Node) :
    inlineNodes envelope (node :: rest) = (inlineNodes envelope rest).map (node :: ·) := by
  cases node with
  | element tag children => exact nomatch none
  | text | cdata | comment | instruction => rfl

/-- Forests are inlined one behind the other. -/
theorem inlineNodes_append {envelope : Envelope} {first second front back : List Node}
    (frontDone : inlineNodes envelope first = .ok front)
    (backDone : inlineNodes envelope second = .ok back) :
    inlineNodes envelope (first ++ second) = .ok (front ++ back) := by
  induction first generalizing front with
  | nil =>
    cases frontDone
    exact backDone
  | cons node rest inductionHypothesis =>
    rw [inlineNodes] at frontDone
    obtain ⟨inlined, node_eq, tail⟩ := exists_of_bind_eq_ok frontDone
    obtain ⟨others, rest_eq, made⟩ := exists_of_bind_eq_ok tail
    cases made
    rw [List.cons_append, inlineNodes, node_eq]
    simp only [bind, Except.bind, inductionHypothesis rest_eq]
    rfl

/-- The text that takes the place of a reference. -/
def referenceText (envelope : Envelope) (reference : Element) : Node :=
  .text (Base64.encode ((resolveInclude reference envelope).toOption.getD []))

/-- To inline a forest is to resolve its outermost references one after the other, and to put what
they stand for in their places. -/
theorem inlineNodes_eq (envelope : Envelope) (nodes : List Node) : inlineNodes envelope nodes =
    ((outermost isIncludeName nodes).mapM (resolveInclude · envelope)).map fun _ =>
      replaceEach isIncludeName (referenceText envelope) nodes := by
  induction nodes using forestInduction with
  | nil => rfl
  | element tag children rest inside behind =>
    rw [inlineNodes_element, behind, outermost_element, List.mapM_append]
    cases refers : isIncludeName tag.name with
    | true =>
      rw [replaceEach_of_kind refers, if_pos rfl, if_pos rfl, List.mapM_cons, List.mapM_nil,
        referenceText]
      cases resolveInclude ⟨tag, children⟩ envelope with
      | error cause => rfl
      | ok bytes =>
        cases (outermost isIncludeName rest).mapM (resolveInclude · envelope) <;> rfl
    | false =>
      rw [replaceEach_of_not_kind refers, inside, if_neg Bool.false_ne_true,
        if_neg Bool.false_ne_true]
      cases (outermost isIncludeName children).mapM (resolveInclude · envelope) with
      | error cause => rfl
      | ok _ => cases (outermost isIncludeName rest).mapM (resolveInclude · envelope) <;> rfl
  | other node rest none behind =>
    rw [inlineNodes_other envelope none, behind, outermost_other none, replaceEach_other none]
    cases (outermost isIncludeName rest).mapM (resolveInclude · envelope) <;> rfl

/-- A forest without references stays as it is. -/
theorem inlineNodes_of_free (envelope : Envelope) {nodes : List Node}
    (free : outermost isIncludeName nodes = []) : inlineNodes envelope nodes = .ok nodes := by
  induction nodes using forestInduction with
  | nil => rfl
  | element tag children rest inside behind =>
    obtain ⟨other, within, later⟩ := outermost_element_eq_nil_iff.1 free
    rw [inlineNodes_element, other, inside within, behind later]
    rfl
  | other node rest none behind =>
    rw [inlineNodes_other envelope none, behind (outermost_other none rest ▸ free)]
    rfl

/-- An element that holds data holds the same data within once its references are inlined. -/
theorem Held.exists_within {envelope : Envelope} {binary : Element}
    (held : Held envelope binary) : ∃ children data,
      inlineNodes envelope binary.children = .ok children ∧
        outermost isIncludeName children = [] ∧ binaryData binary envelope = .ok data ∧
          ∀ other, binaryData ⟨binary.tag, children⟩ other = .ok data := by
  cases held with
  | @within _ bytes name free valid =>
    have same (other : Envelope) : binaryBytes binary other = .ok bytes := by
      rw [binaryBytes_of_unreferenced other (child?_eq_none_of_free free), valid, Option.elim_some]
    exact ⟨binary.children, _, inlineNodes_of_free envelope free, free,
      binaryData_of_bytes (same envelope), fun other => binaryData_of_bytes (same other)⟩
  | @attached tag before after reference bytes name refers only blank resolved =>
    obtain ⟨freeBefore, freeAfter⟩ := List.append_eq_nil_iff.1 (outermost_append before after ▸ only)
    have replaced : inlineNodes envelope (reference.toNode :: after) =
        .ok (.text (Base64.encode bytes) :: after) := by
      rw [Element.toNode, inlineNodes_element, if_pos refers, resolved,
        inlineNodes_of_free envelope freeAfter]
      rfl
    have free : outermost isIncludeName (before ++ .text (Base64.encode bytes) :: after) = [] := by
      rw [outermost_append, freeBefore, outermost_other rfl, freeAfter, List.append_nil]
    have visible : Text.removeBlanks
        (charactersOf (before ++ .text (Base64.encode bytes) :: after)) =
          Text.removeBlanks (Base64.encode bytes) := by
      rw [charactersOf_append, Text.isBlank_append, Bool.and_eq_true] at blank
      rw [charactersOf_append, charactersOf_text, Text.removeBlanks_append,
        Text.removeBlanks_append, Text.removeBlanks_of_isBlank blank.1,
        Text.removeBlanks_of_isBlank blank.2, String.empty_append, String.append_empty]
    have referred : binaryBytes ⟨tag, before ++ reference.toNode :: after⟩ envelope = .ok bytes := by
      rw [binaryBytes, child?_reference refers freeBefore]
      exact resolved
    have within (other : Envelope) :
        binaryBytes ⟨tag, before ++ .text (Base64.encode bytes) :: after⟩ other = .ok bytes := by
      rw [binaryBytes_of_unreferenced other (child?_eq_none_of_free free), visible,
        decode?_removeBlanks_encode, Option.elim_some]
    exact ⟨_, _, inlineNodes_append (inlineNodes_of_free envelope freeBefore) replaced, free,
      binaryData_of_bytes referred, fun other => binaryData_of_bytes (within other)⟩

/-- How a forest is inlined: no reference is left, the outermost `Binary` elements hold the data
they have held, and the elements at the top are called what they were called. -/
structure Inlined (envelope : Envelope) (nodes inlined : List Node) (carried : List DataSource) :
    Prop where
  done : inlineNodes envelope nodes = .ok inlined
  free : outermost isIncludeName inlined = []
  before : (outermost isBinaryName nodes).map (binaryData · envelope) = carried.map .ok
  after : ∀ other, (outermost isBinaryName inlined).map (binaryData · other) = carried.map .ok
  names : (elementsOf inlined).map Element.localName = (elementsOf nodes).map Element.localName

namespace Inlined

variable {envelope : Envelope}

/-- Forests are inlined one behind the other, and so is what they carry. -/
theorem append {first second front back : List Node} {own others : List DataSource}
    (head : Inlined envelope first front own) (tail : Inlined envelope second back others) :
    Inlined envelope (first ++ second) (front ++ back) (own ++ others) where
  done := inlineNodes_append head.done tail.done
  free := by rw [outermost_append, head.free, tail.free, List.append_nil]
  before := by rw [outermost_append, List.map_append, head.before, tail.before, List.map_append]
  after other := by
    rw [outermost_append, List.map_append, head.after, tail.after, List.map_append]
  names := by
    have split (nodes others : List Node) :
        elementsOf (nodes ++ others) = elementsOf nodes ++ elementsOf others :=
      List.filterMap_append
    rw [split, split, List.map_append, List.map_append, head.names, tail.names]

/-- A node that is no element stays as it is. -/
theorem other {node : Node} (none : node.asElement? = none) :
    Inlined envelope [node] [node] [] where
  done := by
    rw [inlineNodes_other envelope none]
    rfl
  free := by rw [outermost_other none, outermost_nil]
  before := by
    rw [outermost_other none]
    rfl
  after _ := by
    rw [outermost_other none]
    rfl
  names := rfl

/-- An element that is no `Binary` and no reference is inlined by inlining what is in it. -/
theorem element {tag : Tag} {children kept : List Node} {carried : List DataSource}
    (plain : isCarrierName tag.name = false) (inside : Inlined envelope children kept carried) :
    Inlined envelope [.element tag children] [.element tag kept] carried := by
  obtain ⟨binary, refers⟩ := Bool.or_eq_false_iff.1 plain
  have within (nodes : List Node) :
      outermost isBinaryName [.element tag nodes] = outermost isBinaryName nodes := by
    rw [outermost_element, binary, outermost_nil, List.append_nil]
    rfl
  refine ⟨?_, outermost_element_eq_nil_iff.2 ⟨refers, inside.free, rfl⟩, ?_, fun other => ?_, rfl⟩
  · rw [inlineNodes_element, refers, inside.done]
    rfl
  · rw [within, inside.before]
  · rw [within, inside.after]

end Inlined

/-- An element that holds data is inlined to one that holds the same data within. -/
theorem Held.exists_inlined {envelope : Envelope} {binary : Element}
    (held : Held envelope binary) :
    ∃ kept data, Inlined envelope [binary.toNode] [.element binary.tag kept] [data] := by
  obtain ⟨kept, data, done, free, before, after⟩ := held.exists_within
  have other := not_isIncludeName_of_isBinaryName held.named
  have own (nodes : List Node) :
      outermost isBinaryName [.element binary.tag nodes] = [⟨binary.tag, nodes⟩] := by
    rw [outermost_element, if_pos held.named, outermost_nil, List.append_nil]
  refine ⟨kept, data, ?_, outermost_element_eq_nil_iff.2 ⟨other, free, rfl⟩, ?_,
    fun message => ?_, rfl⟩
  · rw [Element.toNode, inlineNodes_element, other, done]
    rfl
  · rw [Element.toNode, own]
    exact congrArg (fun result => [result]) before
  · rw [own]
    exact congrArg (fun result => [result]) (after message)

/-- A forest can be inlined if its outermost `Binary` elements hold data and no reference is outside
of them. -/
theorem exists_inlined {envelope : Envelope} {nodes : List Node}
    (held : ∀ carrier ∈ outermost isCarrierName nodes, Held envelope carrier) :
    ∃ inlined carried, Inlined envelope nodes inlined carried := by
  induction nodes using forestInduction with
  | nil => exact ⟨[], [], rfl, rfl, rfl, fun _ => rfl, rfl⟩
  | other node rest none behind =>
    rw [outermost_other none] at held
    obtain ⟨inlined, carried, tail⟩ := behind held
    exact ⟨_, _, (Inlined.other none).append tail⟩
  | element tag children rest inside behind =>
    rw [outermost_element] at held
    obtain ⟨inlined, carried, tail⟩ :=
      behind fun carrier member => held carrier (List.mem_append_right _ member)
    -- A carrier is not looked into: it holds data, or it is no `Binary` and refutes `held`.
    have own (carrier : Element) (member : carrier ∈ if isCarrierName tag.name
        then [⟨tag, children⟩] else outermost isCarrierName children) : Held envelope carrier :=
      held carrier (List.mem_append_left _ member)
    cases carrier : isCarrierName tag.name with
    | true =>
      rw [carrier] at own
      obtain ⟨kept, data, head⟩ := (own _ (List.mem_singleton.2 rfl)).exists_inlined
      exact ⟨_, _, head.append tail⟩
    | false =>
      rw [carrier] at own
      obtain ⟨kept, within, head⟩ := inside own
      exact ⟨_, _, (head.element carrier).append tail⟩

end Codec

end SoapDispatch
