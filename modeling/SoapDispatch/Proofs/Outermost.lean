import SoapDispatch.Proofs.TreeForm

/-!
# Outermost elements

The nodes of a document form a forest. `outermost` lists the elements of a forest that are of some
kind but do not lie within another one of that kind, in document order; the kinds that matter here
are those of elements that carry data and of references to attachments.
-/

namespace SoapDispatch.Xml

/-- A law of forests holds if it is kept when an element or another node is put in front. -/
@[elab_as_elim]
theorem forestInduction {motive : List Node → Prop} (nil : motive [])
    (element : ∀ tag children rest, motive children → motive rest →
      motive (.element tag children :: rest))
    (other : ∀ node rest, node.asElement? = none → motive rest → motive (node :: rest)) :
    ∀ nodes, motive nodes
  | [] => nil
  | .element tag children :: rest =>
    element tag children rest (forestInduction nil element other children)
      (forestInduction nil element other rest)
  | .text _ :: rest => other _ rest rfl (forestInduction nil element other rest)
  | .cdata _ :: rest => other _ rest rfl (forestInduction nil element other rest)
  | .comment _ :: rest => other _ rest rfl (forestInduction nil element other rest)
  | .instruction _ _ :: rest => other _ rest rfl (forestInduction nil element other rest)

mutual

/-- The outermost elements of a kind in a node, the kind being told by the name. -/
def outermostAt (kind : String → Bool) : Node → List Element
  | .element tag children =>
    if kind tag.name then [⟨tag, children⟩] else outermost kind children
  | _ => []

/-- The outermost elements of a kind in a forest. -/
def outermost (kind : String → Bool) : List Node → List Element
  | [] => []
  | node :: rest => outermostAt kind node ++ outermost kind rest

end

section Outermost

variable {kind : String → Bool}

@[simp] theorem outermost_nil : outermost kind [] = [] := rfl

/-- An element of the kind hides what is within it. -/
theorem outermost_element (tag : Tag) (children rest : List Node) :
    outermost kind (.element tag children :: rest) =
      (if kind tag.name then [⟨tag, children⟩] else outermost kind children) ++
        outermost kind rest := by
  rw [outermost, outermostAt]

/-- Only elements count. -/
theorem outermost_other {node : Node} (none : node.asElement? = none) (rest : List Node) :
    outermost kind (node :: rest) = outermost kind rest := by
  cases node with
  | element tag children => exact nomatch none
  | text | cdata | comment | instruction => rfl

@[simp] theorem outermost_append (first second : List Node) :
    outermost kind (first ++ second) = outermost kind first ++ outermost kind second := by
  induction first with
  | nil => rfl
  | cons node rest inductionHypothesis =>
    rw [List.cons_append, outermost, outermost, inductionHypothesis, List.append_assoc]

/-- What is listed is of the kind. -/
theorem kind_of_mem_outermost {nodes : List Node} {element : Element}
    (member : element ∈ outermost kind nodes) : kind element.tag.name = true := by
  induction nodes using forestInduction with
  | nil => exact absurd member List.not_mem_nil
  | element tag children rest inside behind =>
    rw [outermost_element] at member
    rcases List.mem_append.1 member with first | later
    · split at first
      · next ofKind =>
        rw [List.mem_singleton.1 first]
        exact ofKind
      · exact inside first
    · exact behind later
  | other node rest none behind =>
    rw [outermost_other none] at member
    exact behind member

/-- A forest without elements of the kind has none in front, none within those, and none behind. -/
theorem outermost_element_eq_nil_iff {tag : Tag} {children rest : List Node} :
    outermost kind (.element tag children :: rest) = [] ↔
      kind tag.name = false ∧ outermost kind children = [] ∧ outermost kind rest = [] := by
  rw [outermost_element, List.append_eq_nil_iff]
  cases ofKind : kind tag.name <;> simp

/-- A forest without elements of the kind has no such element at its top either. -/
theorem not_kind_of_outermost_eq_nil {nodes : List Node} (free : outermost kind nodes = []) :
    ∀ element ∈ elementsOf nodes, kind element.tag.name = false := by
  induction nodes using forestInduction with
  | nil => exact fun _ member => absurd member List.not_mem_nil
  | element tag children rest _ behind =>
    obtain ⟨notOfKind, _, later⟩ := outermost_element_eq_nil_iff.1 free
    exact List.forall_mem_cons.2 ⟨notOfKind, behind later⟩
  | other node rest none behind =>
    have same : elementsOf (node :: rest) = elementsOf rest := List.filterMap_cons_none none
    rw [same]
    exact behind (outermost_other none rest ▸ free)

/-- A forest without elements of some kind has none within its elements of another kind. -/
theorem free_of_mem_outermost {absent : String → Bool} {nodes : List Node} {element : Element}
    (free : outermost absent nodes = []) (member : element ∈ outermost kind nodes) :
    outermost absent element.children = [] := by
  induction nodes using forestInduction with
  | nil => exact absurd member List.not_mem_nil
  | element tag children rest inside behind =>
    obtain ⟨_, within, later⟩ := outermost_element_eq_nil_iff.1 free
    rw [outermost_element] at member
    rcases List.mem_append.1 member with first | last
    · split at first
      · rw [List.mem_singleton.1 first]
        exact within
      · exact inside within first
    · exact behind later last
  | other node rest none behind =>
    rw [outermost_other none] at free member
    exact behind free member

/-- Leaving blank text out leaves out no element. -/
@[simp] theorem outermost_ofNodes (nodes : List Node) :
    outermost kind (Soap.Body.ofNodes nodes).nodes = outermost kind nodes := by
  induction nodes with
  | nil => rfl
  | cons node rest inductionHypothesis =>
    rw [Soap.Body.nodes_ofNodes_cons]
    split
    · next blank =>
      rw [inductionHypothesis, outermost_other (Soap.Body.asElement?_of_isBlankNode blank)]
    · rw [outermost, outermost, inductionHypothesis]

end Outermost

end SoapDispatch.Xml
