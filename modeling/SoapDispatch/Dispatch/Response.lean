import SoapDispatch.Codec
import SoapDispatch.Endpoint
import SoapDispatch.Failure

/-!
# Responses

The message that answers an invocation. How it is built is settled before the provider is called, by
the endpoint and the received message: the mode of exchange, the version of SOAP, and whether the
message is optimised. A fault and the absence of a value can always be answered; a value can fail to
be encoded, and that is then the server's failure.
-/

namespace SoapDispatch.Dispatch

open SoapDispatch.Soap

/-- What is to be answered. -/
inductive Output where
  | value (value : Option Payload)
  | fault (fault : Fault)

/-- How responses are built. -/
structure Responder where
  mode : ExchangeMode
  protocol : Protocol
  mtom : Bool

namespace Responder

/-- The responder of an endpoint for a request; without a message, SOAP 1.1 is spoken. -/
def ofRequest (endpoint : Endpoint) (message : Option Envelope) : Responder where
  mode := endpoint.mode
  protocol := (message.map Envelope.protocol).getD .soap11
  mtom := endpoint.mtom

/-- The response that carries a fault. -/
def faultResponse (responder : Responder) (fault : Fault) : Envelope :=
  (Envelope.ofFault responder.protocol fault).setMtom responder.mtom

/-- The response that carries nothing. -/
def emptyResponse (responder : Responder) : Envelope :=
  (Envelope.new responder.protocol).setMtom responder.mtom

/-- The response that carries a payload, before its flag is raised. -/
def encoded (responder : Responder) (type : PayloadType) (payload : Payload) (ids : IdSupply) :
    Except DispatchError (Envelope × IdSupply) :=
  match responder.mode with
  | .message =>
    match payload with
    | .message envelope => .ok (envelope, ids)
    | payload => Codec.encodeMessage type payload responder.protocol responder.mtom ids
  | .payload => do
    let result ← Codec.encode type payload responder.emptyResponse ids
    .ok (result.envelope.setBody result.body, result.ids)

/-- The response to an output of a provider of the given type. -/
def respond (responder : Responder) (type : PayloadType) (output : Output) (ids : IdSupply) :
    Except DispatchError (Envelope × IdSupply) :=
  match output with
  | .fault fault => .ok (responder.faultResponse fault, ids)
  | .value none => .ok (responder.emptyResponse, ids)
  | .value (some payload) =>
    match responder.encoded type payload ids with
    | .ok (envelope, ids) => .ok (if responder.mtom then envelope.setMtom true else envelope, ids)
    | .error error => .error error.asResponseConstruction

/-- The response to a value, a refusal being a failure. -/
def respondValue (responder : Responder) (type : PayloadType) (value : Option Payload)
    (ids : IdSupply) : Except Failure (Envelope × IdSupply) :=
  (responder.respond type (.value value) ids).mapError Failure.ofDispatch

/-- The response to a failure. -/
def respondFailure (responder : Responder) (failure : Failure) : Envelope :=
  responder.faultResponse failure.toFault

/-- The response to how an invocation has ended: what a failure leaves is a fault, and so is what a
value leaves that cannot be encoded. -/
def answer (responder : Responder) (outcome : Except Failure (PayloadType × Option Payload))
    (ids : IdSupply) : Envelope × IdSupply :=
  match outcome with
  | .error failure => (responder.respondFailure failure, ids)
  | .ok (type, value) =>
    match responder.respondValue type value ids with
    | .ok result => result
    | .error failure => (responder.respondFailure failure, ids)

end Responder

end SoapDispatch.Dispatch
