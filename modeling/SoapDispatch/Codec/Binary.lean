import SoapDispatch.Base64
import SoapDispatch.DispatchError
import SoapDispatch.Soap.ContentId

/-!
# Binary data in messages

Data is carried by a `Binary` element that names its content type. In a message that is not
optimised the element holds the bytes in base64; in an optimised one it may hold a reference to an
attachment instead. A whole message is carried as data by its document, with every reference
replaced by what it refers to.
-/

namespace SoapDispatch.Codec

open SoapDispatch.Soap SoapDispatch.Xml

/-- The namespace of `Binary` elements. -/
def binaryUri : String := "urn:pmosoap:binary"

/-- The namespace of references to attachments. -/
def includeUri : String := "http://www.w3.org/2004/08/xop/include"

/-- The content type of data that names none. -/
def defaultContentType : String := "application/octet-stream"

/-- Whether a name is that of an element carrying data. -/
def isBinaryName (name : String) : Bool :=
  localName name == "Binary"

/-- Whether a name is that of a reference to an attachment. -/
def isIncludeName (name : String) : Bool :=
  localName name == "Include"

/-- The content id that a reference names; the scheme in front of it may be missing. -/
def contentIdOf (href : String) : String :=
  match href.toList with
  | 'c' :: 'i' :: 'd' :: ':' :: id => String.ofList id
  | _ => href

/-- The bytes that a reference stands for in a message. -/
def resolveInclude (reference : Element) (envelope : Envelope) :
    Except Malformation (List UInt8) :=
  if !envelope.mtom then .error .referenceWithoutMtom
  else
    match reference.tag.attributes.get? "href" with
    | none => .error .referenceWithoutHref
    | some href =>
      match envelope.attachment? (contentIdOf href) with
      | some data => .ok data.bytes
      | none => .error (.unknownAttachment (contentIdOf href))

/-- The bytes that a `Binary` element carries: those of the first reference in it, or else those its
text stands for in base64. -/
def binaryBytes (binary : Element) (envelope : Envelope) : Except Malformation (List UInt8) :=
  match binary.child? "Include" with
  | some reference => resolveInclude reference envelope
  | none =>
    match Base64.decode? (Text.removeBlanks (binary.text?.getD "")).toList with
    | some bytes => .ok bytes
    | none => .error .invalidBase64

/-- The data that a `Binary` element carries. -/
def binaryData (binary : Element) (envelope : Envelope) : Except Malformation DataSource := do
  let bytes ← binaryBytes binary envelope
  .ok {
    contentType := (binary.tag.attributes.get? "contentType").getD defaultContentType
    bytes }

/-- The data that a body carries in its first element. -/
def decodeData (body : Body) (envelope : Envelope) : Except Malformation DataSource :=
  match body.firstElement? with
  | some element =>
    if isBinaryName element.tag.name then binaryData element envelope
    else .error .noBinaryElement
  | none => .error .noBinaryElement

/-- A `Binary` element for data of the given type, around the node that holds it. -/
def binaryElement (contentType : String) (holder : Node) : Element where
  tag := {
    name := "pmo:Binary"
    attributes := [("xmlns:pmo", binaryUri), ("contentType", contentType)] }
  children := [holder]

/-- A reference to an attachment. -/
def includeElement (contentId : String) : Element where
  tag := {
    name := "xop:Include"
    attributes := [("xmlns:xop", includeUri), ("href", "cid:" ++ contentId)] }

/-- The element that carries data, and the message it is meant for. In an optimised message the
data becomes an attachment under the next id of the supply. -/
def encodeData (data : DataSource) (envelope : Envelope) (ids : IdSupply) :
    Element × Envelope × IdSupply :=
  if envelope.mtom then
    (binaryElement data.contentType (includeElement ids.next).toNode,
      envelope.attach ids.next data, ids.rest)
  else (binaryElement data.contentType (.text (Base64.encode data.bytes)), envelope, ids)

/-! ## References in whole messages -/

mutual

/-- A node with every outermost reference replaced by the base64 of what it refers to. -/
def inlineNode (envelope : Envelope) : Node → Except Malformation Node
  | .element tag children =>
    if isIncludeName tag.name then do
      let bytes ← resolveInclude ⟨tag, children⟩ envelope
      .ok (.text (Base64.encode bytes))
    else do
      let children ← inlineNodes envelope children
      .ok (.element tag children)
  | node => .ok node

/-- Nodes with every outermost reference replaced, up to the first that cannot be. -/
def inlineNodes (envelope : Envelope) : List Node → Except Malformation (List Node)
  | [] => .ok []
  | node :: rest => do
    let node ← inlineNode envelope node
    let rest ← inlineNodes envelope rest
    .ok (node :: rest)

end

mutual

/-- A node with every outermost `Binary` element that holds its data itself encoded anew for the
message, and the message with what has been attached. -/
def externalizeNode (envelope : Envelope) (ids : IdSupply) :
    Node → Except Malformation (Node × Envelope × IdSupply)
  | .element tag children =>
    if isBinaryName tag.name then
      let binary : Element := ⟨tag, children⟩
      match binary.child? "Include" with
      | some _ => .ok (.element tag children, envelope, ids)
      | none => do
        let data ← binaryData binary envelope
        let (element, envelope, ids) := encodeData data envelope ids
        .ok (element.toNode, envelope, ids)
    else do
      let (children, envelope, ids) ← externalizeNodes envelope ids children
      .ok (.element tag children, envelope, ids)
  | node => .ok (node, envelope, ids)

/-- Nodes encoded anew one after the other, up to the first that cannot be. -/
def externalizeNodes (envelope : Envelope) (ids : IdSupply) :
    List Node → Except Malformation (List Node × Envelope × IdSupply)
  | [] => .ok ([], envelope, ids)
  | node :: rest => do
    let (node, envelope, ids) ← externalizeNode envelope ids node
    let (rest, envelope, ids) ← externalizeNodes envelope ids rest
    .ok (node :: rest, envelope, ids)

end

/-- The document of a message that stands for itself: without references, all its data within. -/
def selfContained (envelope : Envelope) : Except Malformation Element := do
  let document := envelope.toElement
  let children ← inlineNodes envelope document.children
  .ok { document with children }

/-- A whole message as data. -/
def messageData (envelope : Envelope) : Except Malformation DataSource := do
  let document ← selfContained envelope
  .ok {
    contentType := envelope.protocol.contentType
    bytes := Text.Utf8.encode (document.write true false) }

/-- The message that data is the document of; in an optimised one the data of its body is
attached. -/
def messageOfData (data : DataSource) (mtom : Bool) (ids : IdSupply) :
    Except Malformation (Envelope × IdSupply) :=
  match Envelope.parse data.bytes with
  | .error cause => .error (.noMessage cause)
  | .ok envelope =>
    let envelope := envelope.setMtom mtom
    match mtom, envelope.body? with
    | true, some body => do
      let (nodes, envelope, ids) ← externalizeNodes envelope ids body.nodes
      .ok (envelope.setBody (.ofNodes nodes), ids)
    | _, _ => .ok (envelope, ids)

end SoapDispatch.Codec
