import SoapDispatch.Soap.Fault

/-!
# Envelopes

A message: header blocks, a body or a fault or neither, and attachments with their content ids. A
body keeps no blank text, and an envelope given a body without nodes has no content at all.

Whether a message is optimised (MTOM), that is, whether it may refer to its attachments, is a flag
of the envelope and no part of its XML form.
-/

namespace SoapDispatch.Soap

open SoapDispatch.Xml

/-- Bytes with the name of their content type. -/
structure DataSource where
  contentType : String
  bytes : List UInt8
deriving DecidableEq, Repr

/-- Attachments under their content ids. -/
abbrev Attachments := Dictionary DataSource

/-- What stands in the body of a message. -/
structure Body where
  nodes : List Node := []

/-- Whether a node is text without any visible character. -/
def isBlankNode : Node → Bool
  | .text content => Text.isBlank content
  | _ => false

namespace Body

/-- The body with the given nodes, blank text left out. -/
def ofNodes (nodes : List Node) : Body where
  nodes := nodes.filter fun node => !isBlankNode node

/-- The body with one element. -/
def ofElement (element : Element) : Body where
  nodes := [element.toNode]

/-- The body with one text, or the empty body if the text is blank. -/
def ofText (text : String) : Body :=
  ofNodes [.text text]

/-- Whether there is no node. -/
def isEmpty (body : Body) : Bool :=
  body.nodes.isEmpty

/-- The first element of the body. -/
def firstElement? (body : Body) : Option Element :=
  (elementsOf body.nodes).head?

/-- No blank text survives in a body built from nodes. -/
theorem not_isBlankNode_of_mem_ofNodes {nodes : List Node} {node : Node}
    (kept : node ∈ (ofNodes nodes).nodes) : isBlankNode node = false := by
  simpa using (List.mem_filter.1 kept).2

end Body

/-- What a message carries besides headers and attachments. -/
inductive Content where
  | empty
  | body (body : Body)
  | fault (fault : Fault)

/-- The content that a body is; an empty body is none. -/
def Body.toContent (body : Body) : Content :=
  if body.isEmpty then .empty else .body body

/-- A whole message. -/
structure Envelope where
  protocol : Protocol
  mtom : Bool := false
  headers : List Element := []
  content : Content := .empty
  attachments : Attachments := []

namespace Envelope

/-- The envelope that carries nothing. -/
def new (protocol : Protocol) : Envelope where
  protocol

/-- Puts a body in place of the content; an empty one takes the content away. -/
def setBody (envelope : Envelope) (body : Body) : Envelope :=
  { envelope with content := body.toContent }

/-- Puts a fault in place of the content. -/
def setFault (envelope : Envelope) (fault : Fault) : Envelope :=
  { envelope with content := .fault fault }

/-- Sets whether the message is optimised. -/
def setMtom (envelope : Envelope) (mtom : Bool) : Envelope :=
  { envelope with mtom }

/-- Adds a block after the other headers. -/
def addHeader (envelope : Envelope) (block : Element) : Envelope :=
  { envelope with headers := envelope.headers ++ [block] }

/-- Attaches data under a content id, in place of what is attached under it. -/
def attach (envelope : Envelope) (contentId : String) (data : DataSource) : Envelope :=
  { envelope with attachments := envelope.attachments.insert contentId data }

/-- The envelope with a body and nothing else. -/
def ofBody (protocol : Protocol) (body : Body) : Envelope :=
  (new protocol).setBody body

/-- The envelope with a fault and nothing else. -/
def ofFault (protocol : Protocol) (fault : Fault) : Envelope :=
  (new protocol).setFault fault

/-- The body, if the content is one. -/
def body? (envelope : Envelope) : Option Body :=
  match envelope.content with
  | .body body => some body
  | _ => none

/-- An envelope has a body when its content is one. -/
theorem body?_eq_some_iff {envelope : Envelope} {body : Body} :
    envelope.body? = some body ↔ envelope.content = .body body := by
  rw [body?]
  cases envelope.content <;> simp

/-- The fault, if the content is one. -/
def fault? (envelope : Envelope) : Option Fault :=
  match envelope.content with
  | .fault fault => some fault
  | _ => none

/-- Whether the message carries a fault. -/
def isFault (envelope : Envelope) : Bool :=
  envelope.fault?.isSome

/-- What is attached under a content id. -/
def attachment? (envelope : Envelope) (contentId : String) : Option DataSource :=
  envelope.attachments.get? contentId

/-- Whether the message carries anything: headers, content or attachments. -/
def hasMessage (envelope : Envelope) : Bool :=
  !envelope.headers.isEmpty ||
    (match envelope.content with
      | .empty => false
      | _ => true) ||
    !envelope.attachments.isEmpty

end Envelope

end SoapDispatch.Soap
