import SoapDispatch.PayloadType
import SoapDispatch.Soap.Message

/-!
# Errors of dispatching

What can go wrong between a received message and its answer, apart from what a provider does. Only a
payload that the message itself makes unreadable is the client's fault.
-/

namespace SoapDispatch

open SoapDispatch.Soap

/-- Why a body, a message or a value cannot be converted. -/
inductive Malformation where
  | invalidDocument (cause : Xml.ReadError)
  | typeMismatch (expected actual : PayloadType)
  | emptyBody
  | textWithoutElement
  | noBinaryElement
  | referenceWithoutMtom
  | referenceWithoutHref
  | unknownAttachment (contentId : String)
  | invalidBase64
  /-- A value that should be a whole message is no element at all. -/
  | noEnvelopeDocument
  /-- An element that should be a whole message is none. -/
  | noEnvelope (cause : EnvelopeError)
  /-- Bytes that should be a whole message are none. -/
  | noMessage (cause : EnvelopeError)
  /-- A refusal in the words of a provider. -/
  | stated (text : String)
deriving DecidableEq, Repr

/-- The wording of a malformation. -/
def Malformation.message : Malformation → String
  | invalidDocument cause => "invalid XML document: " ++ cause.message
  | typeMismatch expected actual =>
    "expected a " ++ expected.declarationName ++ " payload, got " ++ actual.declarationName
  | emptyBody => "empty body"
  | textWithoutElement => "body carries text but no XML element"
  | noBinaryElement => "body does not carry a Binary element"
  | referenceWithoutMtom => "attachment reference in a message without MTOM"
  | referenceWithoutHref => "xop:Include without href"
  | unknownAttachment contentId => "no attachment with content-id '" ++ contentId ++ "'"
  | invalidBase64 => "invalid base64 content: not in canonical form"
  | noEnvelopeDocument => "value is not an Envelope document"
  | noEnvelope cause => cause.message
  | noMessage cause => "data is not a SOAP message: " ++ cause.message
  | stated text => text

/-- Why no payload type can be worked with. -/
inductive TypeRefusal where
  | notParameterized (className : String)
  | unknownType (className typeName : String)
  | severalTypes (className : String) (count : Nat)
  /-- Whole messages are exchanged in message mode only. -/
  | messageModeOnly
  /-- A refusal in the words of a provider. -/
  | stated (text : String)
deriving DecidableEq, Repr

/-- The wording of a refusal. -/
def TypeRefusal.message : TypeRefusal → String
  | notParameterized className => "provider " ++ className ++ " is not parameterized"
  | unknownType className typeName =>
    "provider " ++ className ++ " declares unsupported payload type '" ++ typeName ++ "'"
  | severalTypes className count =>
    "provider " ++ className ++ " declares " ++ toString count ++ " type arguments"
  | messageModeOnly => "soap-message payloads require MESSAGE mode"
  | stated text => text

/-- An error of the dispatching of a message. -/
inductive DispatchError where
  | unsupportedPayloadType (cause : TypeRefusal)
  | malformedPayload (cause : Malformation)
  | handlerFailure (text : String)
  | responseConstruction (text : String)
  | executorUnavailable (role : String)
deriving DecidableEq, Repr

namespace DispatchError

/-- The wording of an error. -/
def message : DispatchError → String
  | unsupportedPayloadType cause => "Unsupported payload type: " ++ cause.message
  | malformedPayload cause => "Malformed payload: " ++ cause.message
  | handlerFailure text => "Handler failure: " ++ text
  | responseConstruction text => "Response construction failure: " ++ text
  | executorUnavailable role => "No executor registered for role '" ++ role ++ "'"

/-- Whether the received message, and not the server, is to blame. -/
def isClientError : DispatchError → Bool
  | malformedPayload _ => true
  | _ => false

/-- The same error, as one of building the response. -/
def asResponseConstruction : DispatchError → DispatchError
  | responseConstruction text => responseConstruction text
  | error => responseConstruction error.message

end DispatchError

/-- Reads a document, a refusal being one of the payload. -/
def parseSource (text : String) : Except DispatchError Xml.Element :=
  (Xml.parse text).mapError (DispatchError.malformedPayload ∘ Malformation.invalidDocument)

end SoapDispatch
