import SoapDispatch.Proofs.Inlining

/-!
# Plain forms

What is left of an element when everything is taken away that a written document need not keep:
qualifiers and bindings of names, blank characters, and how the characters of an element are spread
among its nodes. Of the attributes only the content type is kept, as the data of a `Binary` element
depends on no other one. What this theory finds out of a document, it finds out of its plain form.
-/

namespace SoapDispatch

open SoapDispatch.Xml SoapDispatch.Soap SoapDispatch.Codec

namespace Xml

/-! ## Local names -/

/-- Nothing that follows the last colon is a colon. -/
theorem notMem_afterLastColon (chars : List Char) : ':' ∉ afterLastColon chars := by
  induction chars with
  | nil => exact List.not_mem_nil
  | cons c rest inductionHypothesis =>
    rw [afterLastColon]
    split
    · exact inductionHypothesis
    · next plain => exact plain

/-- A local name is its own local name. -/
@[simp] theorem localName_localName (name : String) : localName (localName name) = localName name := by
  refine localName_of_not_mem ?_
  rw [localName, String.toList_ofList]
  exact notMem_afterLastColon _

/-! ## Telling trees apart -/

mutual

/-- Whether two nodes are the same. -/
def Node.same : Node → Node → Bool
  | .element tag children, .element tag' children' => tag == tag' && sameNodes children children'
  | .text content, .text content' => content == content'
  | .cdata content, .cdata content' => content == content'
  | .comment content, .comment content' => content == content'
  | .instruction target data, .instruction target' data' => target == target' && data == data'
  | _, _ => false

/-- Whether two forests are the same. -/
def sameNodes : List Node → List Node → Bool
  | [], [] => true
  | node :: rest, node' :: rest' => node.same node' && sameNodes rest rest'
  | _, _ => false

end

/-- Sameness of forests is equality. -/
theorem sameNodes_iff {nodes others : List Node} : sameNodes nodes others = true ↔ nodes = others := by
  induction nodes using forestInduction generalizing others with
  | nil => cases others <;> simp [sameNodes]
  | element tag children rest inside behind =>
    rcases others with _ | ⟨node, others⟩
    · simp [sameNodes]
    · cases node <;> simp [sameNodes, Node.same, inside, behind]
  | other node rest none behind =>
    rcases others with _ | ⟨node', others⟩
    · simp [sameNodes]
    · cases node with
      | element tag children => exact nomatch none
      | text | cdata | comment | instruction =>
        cases node' <;> simp [sameNodes, Node.same, behind]

/-- Elements can be told apart. -/
instance : DecidableEq Element := fun first second =>
  decidable_of_iff (sameNodes [first.toNode] [second.toNode] = true) <| by
    obtain ⟨tag, children⟩ := first
    obtain ⟨tag', children'⟩ := second
    simp [sameNodes_iff, Element.toNode]

/-! ## Plain forms -/

/-- The plain form of a tag. -/
def Tag.plain (tag : Tag) : Tag where
  name := localName tag.name
  attributes :=
    (tag.attributes.get? "contentType").toList.map fun value => ("contentType", value)

mutual

/-- The plain form of a node; only elements have one. -/
def plainNode : Node → List Node
  | .element tag children =>
    [.element tag.plain
      (.text (Text.removeBlanks (charactersOf children)) :: plainNodes children)]
  | _ => []

/-- The plain form of a forest. -/
def plainNodes : List Node → List Node
  | [] => []
  | node :: rest => plainNode node ++ plainNodes rest

end

/-- The plain form of an element. -/
def Element.plain (element : Element) : Element where
  tag := element.tag.plain
  children := .text (Text.removeBlanks (charactersOf element.children)) ::
    plainNodes element.children

theorem plainNodes_element (tag : Tag) (children rest : List Node) :
    plainNodes (.element tag children :: rest) =
      (Element.plain ⟨tag, children⟩).toNode :: plainNodes rest := by
  rw [plainNodes, plainNode]
  rfl

theorem plainNodes_other {node : Node} (none : node.asElement? = none) (rest : List Node) :
    plainNodes (node :: rest) = plainNodes rest := by
  cases node with
  | element tag children => exact nomatch none
  | text | cdata | comment | instruction => rfl

/-- A plain forest has elements only. -/
theorem charactersOf_plainNodes (nodes : List Node) : charactersOf (plainNodes nodes) = "" := by
  induction nodes using forestInduction with
  | nil => rfl
  | element tag children rest _ behind =>
    rw [plainNodes_element, charactersOf_element, behind]
  | other node rest none behind => rw [plainNodes_other none, behind]

/-- The elements of a plain forest are the plain forms of the elements. -/
theorem elementsOf_plainNodes (nodes : List Node) :
    elementsOf (plainNodes nodes) = (elementsOf nodes).map Element.plain := by
  induction nodes using forestInduction with
  | nil => rfl
  | element tag children rest _ behind =>
    rw [plainNodes_element]
    exact congrArg (_ :: ·) behind
  | other node rest none behind =>
    have same : elementsOf (node :: rest) = elementsOf rest := List.filterMap_cons_none none
    rw [plainNodes_other none, same, behind]

variable {element : Element}

@[simp] theorem Element.localName_plain : element.plain.localName = element.localName :=
  localName_localName element.tag.name

/-- Children are found in the plain form of an element as in the element. -/
theorem Element.child?_plain (name : String) :
    element.plain.child? name = (element.child? name).map Element.plain := by
  have elements : elementsOf element.plain.children =
      (elementsOf element.children).map Element.plain := elementsOf_plainNodes element.children
  have names : (fun child => child.localName == name) ∘ Element.plain =
      fun child => child.localName == name := by
    funext child
    rw [Function.comp_apply, localName_plain]
  rw [child?, elements, List.find?_map, names, child?]

/-- The outermost elements of a kind in a plain forest are the plain forms of those in the forest,
if the kind is told by local names. -/
theorem outermost_plainNodes {kind : String → Bool}
    (told : ∀ name, kind (localName name) = kind name) (nodes : List Node) :
    outermost kind (plainNodes nodes) = (outermost kind nodes).map Element.plain := by
  induction nodes using forestInduction with
  | nil => rfl
  | element tag children rest inside behind =>
    have name : kind (Element.plain ⟨tag, children⟩).tag.name = kind tag.name := told tag.name
    have within : outermost kind (Element.plain ⟨tag, children⟩).children =
        outermost kind (plainNodes children) := outermost_other rfl _
    rw [plainNodes_element, Element.toNode, outermost_element, outermost_element, name, within,
      List.map_append, inside, behind]
    split <;> rfl
  | other node rest none behind => rw [plainNodes_other none, outermost_other none, behind]

end Xml

namespace Codec

/-- Whether an element carries data is told by its local name. -/
theorem isBinaryName_localName (name : String) :
    isBinaryName (localName name) = isBinaryName name := by
  rw [isBinaryName, localName_localName, isBinaryName]

/-- The data of an element without references is that of its plain form. -/
theorem binaryData_plain {binary : Element} (unreferenced : binary.child? "Include" = none)
    (envelope : Envelope) : binaryData binary.plain envelope = binaryData binary envelope := by
  have none : binary.plain.child? "Include" = none := by
    rw [Element.child?_plain, unreferenced, Option.map_none]
  have type : binary.plain.tag.attributes.get? "contentType" =
      binary.tag.attributes.get? "contentType" := by
    have shown : binary.plain.tag.attributes =
        (binary.tag.attributes.get? "contentType").toList.map fun value =>
          ("contentType", value) := rfl
    rw [shown]
    cases binary.tag.attributes.get? "contentType" with
    | none => rfl
    | some value => simp [Attributes.get?]
  have characters : Text.removeBlanks (charactersOf binary.plain.children) =
      Text.removeBlanks (charactersOf binary.children) := by
    have shown : binary.plain.children =
        .text (Text.removeBlanks (charactersOf binary.children)) ::
          plainNodes binary.children := rfl
    rw [shown, charactersOf_text, charactersOf_plainNodes, String.append_empty,
      Text.removeBlanks_removeBlanks]
  rw [binaryData, binaryBytes_of_unreferenced envelope none, type, characters, binaryData,
    binaryBytes_of_unreferenced envelope unreferenced]

/-- A forest with the plain form of one without references holds its data within, and the same. -/
theorem binaryData_of_plainNodes_eq {nodes others : List Node}
    (same : plainNodes nodes = plainNodes others) (free : outermost isIncludeName others = []) :
    (∀ binary ∈ outermost isBinaryName nodes, binary.child? "Include" = none) ∧
      ∀ envelope, (outermost isBinaryName nodes).map (binaryData · envelope) =
        (outermost isBinaryName others).map (binaryData · envelope) := by
  have forms : (outermost isBinaryName nodes).map Element.plain =
      (outermost isBinaryName others).map Element.plain := by
    rw [← outermost_plainNodes isBinaryName_localName, same,
      outermost_plainNodes isBinaryName_localName]
  have kept (binary : Element) (member : binary ∈ outermost isBinaryName others) :
      binary.child? "Include" = none := child?_eq_none_of_free (free_of_mem_outermost free member)
  have unreferenced (binary : Element) (member : binary ∈ outermost isBinaryName nodes) :
      binary.child? "Include" = none := by
    have form : binary.plain ∈ (outermost isBinaryName others).map Element.plain :=
      forms ▸ List.mem_map_of_mem member
    obtain ⟨other, known, equal⟩ := List.mem_map.1 form
    have none := congrArg (·.child? "Include") equal
    simp only [Element.child?_plain, kept other known, Option.map_none] at none
    exact Option.map_eq_none_iff.1 none.symm
  refine ⟨unreferenced, fun envelope => ?_⟩
  have plain {binaries : List Element}
      (unreferenced : ∀ binary ∈ binaries, binary.child? "Include" = none) :
      binaries.map (binaryData · envelope) =
        (binaries.map Element.plain).map (binaryData · envelope) := by
    rw [List.map_map]
    exact List.map_congr_left fun binary member =>
      (binaryData_plain (unreferenced binary member) envelope).symm
  rw [plain unreferenced, plain kept, forms]

end Codec

end SoapDispatch
