import SoapDispatch.Soap.Envelope
import SoapDispatch.Xml.Document
import SoapDispatch.Xml.Writer

/-!
# The XML form of messages

An envelope as an element and as a document, and the way back. The XML form holds the headers and
the content; attachments and the flag for optimised messages travel beside it.

Reading goes by local names, taking the first header and the first body, and the version of SOAP is
the one whose namespace the root is in.
-/

namespace SoapDispatch.Soap

open SoapDispatch.Xml

/-- Why an element or a document is no envelope. -/
inductive EnvelopeError where
  | document (cause : ReadError)
  | missingEnvelope
  | missingBody
  /-- The root is in no namespace, or in one that belongs to no version of SOAP. -/
  | unknownProtocol (uri : Option String)
  | invalidFault (cause : FaultError)
deriving DecidableEq, Repr

/-- The wording of a refusal. -/
def EnvelopeError.message : EnvelopeError → String
  | document cause => "XML parse error: " ++ cause.message
  | missingEnvelope => "Missing SOAP Envelope"
  | missingBody => "Missing SOAP Body"
  | unknownProtocol uri => "Unknown SOAP protocol: " ++ uri.getD "no envelope namespace"
  | invalidFault cause => "Invalid SOAP Fault: " ++ cause.message

/-- The namespace of an element: the one its name resolves to, or the one that an attribute written
by hand declares for its qualifier. -/
def declaredUri? (element : Element) : Option String :=
  element.tag.uri.or <|
    let name := element.tag.name.toList
    let key :=
      if name.contains ':' then "xmlns:" ++ String.ofList (name.takeWhile (· != ':')) else "xmlns"
    element.tag.attributes.get? key

namespace Envelope

/-- The children of the body element. -/
def bodyNodes (envelope : Envelope) : List Node :=
  match envelope.content with
  | .empty => []
  | .body body => body.nodes
  | .fault fault => [(fault.toElement envelope.protocol).toNode]

/-- The header and body elements; there is a header element only if there are headers. -/
def parts (envelope : Envelope) : List Element :=
  (if envelope.headers.isEmpty then []
    else [.ofName (envelopeName "Header") (envelope.headers.map Element.toNode)]) ++
    [.ofName (envelopeName "Body") envelope.bodyNodes]

/-- The envelope as an element. -/
def toElement (envelope : Envelope) : Element where
  tag := {
    name := envelopeName "Envelope"
    attributes := [("xmlns:" ++ envelopeQualifier, envelope.protocol.envelopeUri)] }
  children := envelope.parts.map Element.toNode

/-- The envelope as a document. -/
def toXml (envelope : Envelope) : String :=
  envelope.toElement.write true false

/-- What the body element of a message carries. -/
def contentOf (body : Element) : Except FaultError Content :=
  match body.child? "Fault" with
  | some fault => (Fault.ofElement fault).map .fault
  | none => .ok (Body.ofNodes body.children).toContent

/-- Reads an envelope from its element. -/
def ofElement (root : Element) : Except EnvelopeError Envelope :=
  if root.localName ≠ "Envelope" then .error .missingEnvelope
  else
    match declaredUri? root with
    | none => .error (.unknownProtocol none)
    | some uri =>
      match Protocol.ofUri? uri with
      | none => .error (.unknownProtocol (some uri))
      | some protocol =>
        match root.child? "Body" with
        | none => .error .missingBody
        | some body =>
          match contentOf body with
          | .error cause => .error (.invalidFault cause)
          | .ok content =>
            .ok {
              protocol
              headers := (root.child? "Header").elim [] fun header => elementsOf header.children
              content }

/-- Reads an envelope from the bytes of its document. -/
def parse (bytes : List UInt8) : Except EnvelopeError Envelope :=
  match readDocument bytes with
  | .ok root => ofElement root
  | .error cause => .error (.document cause)

end Envelope

end SoapDispatch.Soap
