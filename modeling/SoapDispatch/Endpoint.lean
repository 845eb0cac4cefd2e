/-!
# Endpoints

What dispatching has to know of an operation: its name, how much of a message its provider sees, and
the binding it is reached through. The binding alone decides whether messages are optimised.
-/

namespace SoapDispatch

/-- How much of a message a provider sees. -/
inductive ExchangeMode where
  /-- The body only. -/
  | payload
  /-- The whole message. -/
  | message
deriving DecidableEq, Repr

/-- SOAP 1.1 over HTTP with optimised messages. -/
def mtomBinding11 : String := "http://schemas.xmlsoap.org/wsdl/soap/http?mtom=true"

/-- SOAP 1.2 over HTTP with optimised messages. -/
def mtomBinding12 : String := "http://www.w3.org/2003/05/soap/bindings/HTTP/?mtom=true"

/-- Whether a binding asks for optimised messages. -/
def isMtomBinding (binding : String) : Bool :=
  binding == mtomBinding11 || binding == mtomBinding12

/-- The description of an operation. -/
structure Endpoint where
  operation : String
  mode : ExchangeMode := .payload
  binding : Option String := none
deriving DecidableEq, Repr

/-- Whether messages of the operation are optimised. -/
def Endpoint.mtom (endpoint : Endpoint) : Bool :=
  endpoint.binding.any isMtomBinding

end SoapDispatch
