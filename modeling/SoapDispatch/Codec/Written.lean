import SoapDispatch.DispatchError

/-!
# Written documents in messages

Text carried by a message. Text that is a document becomes the element it is, other text stays text,
and blank text leaves the body empty. Reading puts the texts and the written forms of the elements
back together.
-/

namespace SoapDispatch.Codec

open SoapDispatch.Soap SoapDispatch.Xml

/-- What a node contributes to the text of a body. -/
def writtenNode : Node → String
  | .text content => content
  | .cdata content => content
  | .element tag children => (Element.mk tag children).write false false
  | _ => ""

/-- The text of a body. -/
def decodeText (body : Body) : String :=
  String.join (body.nodes.map writtenNode)

/-- Whether the first visible character of a text is one a document can start with. -/
def startsLikeDocument (text : String) : Bool :=
  (Text.trimStart text).toList.head? == some '<'

/-- The body that carries a text. -/
def encodeText (text : String) : Body :=
  if startsLikeDocument text then
    match Xml.parse text with
    | .ok element => .ofElement element
    | .error _ => .ofText text
  else .ofText text

/-- The element that a body carries. -/
def decodeSource (body : Body) : Except Malformation Element :=
  match body.firstElement? with
  | some element => .ok element
  | none => if body.isEmpty then .error .emptyBody else .error .textWithoutElement

end SoapDispatch.Codec
