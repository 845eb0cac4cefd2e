import SoapDispatch.Codec.Binary
import SoapDispatch.Codec.Written
import SoapDispatch.Payload

/-!
# Payloads in messages

How payloads of each type are carried by messages. In a body, a payload is some of its nodes; in
message mode it stands for the whole message. Whole messages as payloads exist in message mode only.

Encoding may attach data to the message it encodes for, so it gives the message back, together with
what is left of the supply of content ids.
-/

namespace SoapDispatch.Codec

open SoapDispatch.Soap

/-- A result that only a malformation stands in the way of. -/
def orMalformed {α : Type} (result : Except Malformation α) : Except DispatchError α :=
  result.mapError .malformedPayload

/-- The refusal of whole messages where only a body is exchanged. -/
def messageModeOnly : DispatchError :=
  .unsupportedPayloadType .messageModeOnly

/-- Reads a payload from a body; the message it belongs to tells what references stand for. -/
def decode (type : PayloadType) (body : Body) (envelope : Envelope) :
    Except DispatchError Payload :=
  match type with
  | .text => .ok (.text (decodeText body))
  | .source => (orMalformed (decodeSource body)).map .source
  | .soapMessage => .error messageModeOnly
  | .dataSource => (orMalformed (decodeData body envelope)).map .data

/-- What encoding for a message gives: a body, the message with what has been attached to it, and
the rest of the supply. -/
structure Encoded where
  body : Body
  envelope : Envelope
  ids : IdSupply

/-- Encodes a payload as a body for a message. -/
def encode (type : PayloadType) (payload : Payload) (envelope : Envelope) (ids : IdSupply) :
    Except DispatchError Encoded :=
  match type with
  | .text => do
    let text ← payload.require .text
    .ok { body := encodeText text, envelope, ids }
  | .source => do
    let element ← payload.require .source
    .ok { body := .ofElement element, envelope, ids }
  | .soapMessage => .error messageModeOnly
  | .dataSource => do
    let data ← payload.require .dataSource
    let (element, envelope, ids) := encodeData data envelope ids
    .ok { body := .ofElement element, envelope, ids }

/-- Reads a whole message as a payload. -/
def decodeMessage (type : PayloadType) (envelope : Envelope) : Except DispatchError Payload :=
  match type with
  | .soapMessage => .ok (.message envelope)
  | .dataSource => (orMalformed (messageData envelope)).map .data
  | _ => decode type (.ofElement envelope.toElement) envelope

/-- The message whose document a body consists of. -/
def messageOfBody (body : Body) (mtom : Bool) (attachments : Attachments) :
    Except Malformation Envelope :=
  match body.firstElement? with
  | none => .error .noEnvelopeDocument
  | some root =>
    match Envelope.ofElement root with
    | .error cause => .error (.noEnvelope cause)
    | .ok envelope => .ok { envelope with mtom, attachments }

/-- Encodes a payload as a whole message. A payload that is a message already keeps its version and
may only become optimised; every other one tells its version itself. -/
def encodeMessage (type : PayloadType) (payload : Payload) (protocol : Protocol) (mtom : Bool)
    (ids : IdSupply) : Except DispatchError (Envelope × IdSupply) :=
  match type with
  | .soapMessage => do
    let envelope ← payload.require .soapMessage
    .ok (if mtom then envelope.setMtom true else envelope, ids)
  | .dataSource => do
    let data ← payload.require .dataSource
    orMalformed (messageOfData data mtom ids)
  | _ => do
    let encoded ← encode type payload ((Envelope.new protocol).setMtom mtom) ids
    let envelope ← orMalformed (messageOfBody encoded.body mtom encoded.envelope.attachments)
    .ok (envelope, encoded.ids)

end SoapDispatch.Codec
