import SoapDispatch.Xml.Attributes
import SoapDispatch.Xml.Bindings

/-!
# Elements and nodes

The tree form of a document. An element is a tag with a list of child nodes; a node is an element or
a piece of character data, a comment or a processing instruction.

A name may be given in two ways: split into a qualifier and a local part, as the reader does, or in
one piece with its colon, as programs do that build trees by hand. `localName` reads both alike,
and every search for a child goes by local names.
-/

namespace SoapDispatch.Xml

/-- What stands in a start tag: the name, what it resolves to, and the attributes. -/
structure Tag where
  /-- The local part of the name, or a whole name with its colon. -/
  name : String
  /-- The part of the name before the colon, where the name is given in two parts. -/
  qualifier : Option String := none
  /-- The namespace the name resolves to. -/
  uri : Option String := none
  /-- Namespace bindings in scope at the element, ordered by what they bind. -/
  bindings : Bindings := []
  attributes : Attributes := []
deriving DecidableEq, Repr

/-- A child of an element. -/
inductive Node where
  | element (tag : Tag) (children : List Node)
  | text (content : String)
  | cdata (content : String)
  | comment (content : String)
  | instruction (target : String) (data : Option String)

/-- An element: a tag with the nodes between its start and its end. -/
structure Element where
  tag : Tag
  children : List Node := []

/-- What follows the last colon, or everything if there is none. -/
def afterLastColon : List Char → List Char
  | [] => []
  | c :: rest => if ':' ∈ c :: rest then afterLastColon rest else c :: rest

/-- The local part of a name that may be written with a qualifier. -/
def localName (name : String) : String :=
  String.ofList (afterLastColon name.toList)

namespace Node

/-- The element that a node is, if it is one. -/
def asElement? : Node → Option Element
  | .element tag children => some ⟨tag, children⟩
  | _ => none

/-- The characters of a text node or a CDATA section. -/
def characters? : Node → Option String
  | .text content => some content
  | .cdata content => some content
  | _ => none

end Node

/-- The elements among a list of nodes, in order. -/
def elementsOf (nodes : List Node) : List Element :=
  nodes.filterMap Node.asElement?

namespace Element

/-- The element as a node of another one. -/
def toNode (element : Element) : Node :=
  .element element.tag element.children

/-- The local part of the element's name. -/
def localName (element : Element) : String :=
  Xml.localName element.tag.name

/-- An element of the given name and children, without attributes. -/
def ofName (name : String) (children : List Node) : Element where
  tag := { name }
  children

/-- An element that holds one text node. -/
def ofText (name text : String) : Element :=
  ofName name [.text text]

/-- The first child element with the given local name. -/
def child? (element : Element) (name : String) : Option Element :=
  (elementsOf element.children).find? fun child => child.localName == name

/-- The text of the element: its own character data put together, if it has any node of it. -/
def text? (element : Element) : Option String :=
  match element.children.filterMap Node.characters? with
  | [] => none
  | parts => some (String.join parts)

@[simp] theorem asElement?_toNode (element : Element) : element.toNode.asElement? = some element :=
  rfl

/-- The only element among one element's nodes is that element. -/
@[simp] theorem elementsOf_singleton (element : Element) :
    elementsOf [element.toNode] = [element] := rfl

/-- An element built around a text has that text, the empty one included. -/
@[simp] theorem text?_ofText (name text : String) : (ofText name text).text? = some text := by
  simp [ofText, ofName, text?, Node.characters?, String.join]

end Element

/-- A name without a colon is its own local part. -/
theorem localName_of_not_mem {name : String} (plain : ':' ∉ name.toList) :
    localName name = name := by
  unfold localName
  cases shape : name.toList with
  | nil => rw [afterLastColon, ← shape, String.ofList_toList]
  | cons c rest => rw [afterLastColon, if_neg (shape ▸ plain), ← shape, String.ofList_toList]

end SoapDispatch.Xml
