import SoapDispatch.Proofs.Outermost

/-!
# Elements replaced in place

A forest in which each outermost element of a kind gives way to another node, and nothing else
changes. What takes the place of an element may depend on the element and on its number, the
outermost elements being numbered in document order.
-/

namespace SoapDispatch.Xml

mutual

/-- A node whose outermost elements of a kind give way to other nodes. -/
def replaceAt (kind : String → Bool) (replacement : Nat → Element → Node) (number : Nat) :
    Node → Node
  | .element tag children =>
    if kind tag.name then replacement number ⟨tag, children⟩
    else .element tag (replaceOutermost kind replacement number children)
  | node => node

/-- A forest whose outermost elements of a kind give way to other nodes. The number is that of the
first such element. -/
def replaceOutermost (kind : String → Bool) (replacement : Nat → Element → Node) (number : Nat) :
    List Node → List Node
  | [] => []
  | node :: rest =>
    replaceAt kind replacement number node ::
      replaceOutermost kind replacement (number + (outermostAt kind node).length) rest

end

/-- A forest whose outermost elements of a kind give way to nodes that depend on the elements
alone. -/
def replaceEach (kind : String → Bool) (replacement : Element → Node) (nodes : List Node) :
    List Node :=
  replaceOutermost kind (fun _ => replacement) 0 nodes

section Replacing

variable {kind : String → Bool} {replacement : Nat → Element → Node} {number : Nat} {tag : Tag}
  {children rest : List Node}

/-- An element of the kind gives way as a whole. -/
theorem replaceOutermost_of_kind (ofKind : kind tag.name = true) :
    replaceOutermost kind replacement number (.element tag children :: rest) =
      replacement number ⟨tag, children⟩ ::
        replaceOutermost kind replacement (number + 1) rest := by
  rw [replaceOutermost, replaceAt, outermostAt, if_pos ofKind, if_pos ofKind]
  rfl

/-- Another element is kept, and what is within it comes before what is behind it. -/
theorem replaceOutermost_of_not_kind (other : kind tag.name = false) :
    replaceOutermost kind replacement number (.element tag children :: rest) =
      .element tag (replaceOutermost kind replacement number children) ::
        replaceOutermost kind replacement (number + (outermost kind children).length) rest := by
  rw [replaceOutermost, replaceAt, outermostAt, other]
  rfl

/-- What is no element is kept. -/
theorem replaceOutermost_other {node : Node} (none : node.asElement? = none) :
    replaceOutermost kind replacement number (node :: rest) =
      node :: replaceOutermost kind replacement number rest := by
  cases node with
  | element tag children => exact nomatch none
  | text | cdata | comment | instruction => rfl

/-- Where the number does not matter, it does not matter where numbering begins. -/
theorem replaceOutermost_eq_replaceEach (replacement : Element → Node) (number : Nat)
    (nodes : List Node) :
    replaceOutermost kind (fun _ => replacement) number nodes =
      replaceEach kind replacement nodes := by
  have free (first second : Nat) : replaceOutermost kind (fun _ => replacement) first nodes =
      replaceOutermost kind (fun _ => replacement) second nodes := by
    induction nodes using forestInduction generalizing first second with
    | nil => rfl
    | element tag children rest inside behind =>
      cases ofKind : kind tag.name with
      | true =>
        rw [replaceOutermost_of_kind ofKind, replaceOutermost_of_kind ofKind,
          behind (first + 1) (second + 1)]
      | false =>
        rw [replaceOutermost_of_not_kind ofKind, replaceOutermost_of_not_kind ofKind,
          inside first second, behind (first + _) (second + _)]
    | other node rest none behind =>
      rw [replaceOutermost_other none, replaceOutermost_other none, behind first second]
  exact free number 0

theorem replaceEach_of_kind (ofKind : kind tag.name = true) (replacement : Element → Node) :
    replaceEach kind replacement (.element tag children :: rest) =
      replacement ⟨tag, children⟩ :: replaceEach kind replacement rest := by
  rw [replaceEach, replaceOutermost_of_kind ofKind, replaceOutermost_eq_replaceEach]

theorem replaceEach_of_not_kind (other : kind tag.name = false) (replacement : Element → Node) :
    replaceEach kind replacement (.element tag children :: rest) =
      .element tag (replaceEach kind replacement children) ::
        replaceEach kind replacement rest := by
  rw [replaceEach, replaceOutermost_of_not_kind other, replaceOutermost_eq_replaceEach,
    replaceOutermost_eq_replaceEach]

theorem replaceEach_other {node : Node} (none : node.asElement? = none)
    (replacement : Element → Node) :
    replaceEach kind replacement (node :: rest) = node :: replaceEach kind replacement rest := by
  rw [replaceEach, replaceOutermost_other none, replaceEach]

/-- Elements of the kind that take the place of elements of the kind are the outermost ones. -/
theorem outermost_replaceOutermost {nodes : List Node} (replacement : Nat → Element → Element)
    (ofKind : ∀ number element, kind (replacement number element).tag.name = true) (number : Nat) :
    outermost kind
        (replaceOutermost kind (fun number element => (replacement number element).toNode) number
          nodes) =
      ((outermost kind nodes).zipIdx number).map fun place => replacement place.2 place.1 := by
  induction nodes using forestInduction generalizing number with
  | nil => rfl
  | element tag children rest inside behind =>
    rw [outermost_element]
    cases own : kind tag.name with
    | true =>
      rw [replaceOutermost_of_kind own, Element.toNode, outermost_element, if_pos (ofKind _ _),
        behind]
      rfl
    | false =>
      rw [replaceOutermost_of_not_kind own, outermost_element, own, inside, behind]
      simp [List.zipIdx_append]
  | other node rest none behind =>
    rw [replaceOutermost_other none, outermost_other none, outermost_other none, behind]

end Replacing

end SoapDispatch.Xml
