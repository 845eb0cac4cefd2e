/-!
# Protocol versions

The two versions of SOAP. A message tells its version by the namespace of its envelope.
-/

namespace SoapDispatch.Soap

/-- The version of SOAP a message follows. -/
inductive Protocol where
  | soap11
  | soap12
deriving DecidableEq, Repr

/-- The qualifier of the envelope's own elements in messages written here. -/
def envelopeQualifier : String := "soapenv"

/-- A name of the envelope's own vocabulary, in one piece with its qualifier. -/
def envelopeName (base : String) : String :=
  envelopeQualifier ++ ":" ++ base

namespace Protocol

/-- The namespace of the envelope. -/
def envelopeUri : Protocol → String
  | .soap11 => "http://schemas.xmlsoap.org/soap/envelope/"
  | .soap12 => "http://www.w3.org/2003/05/soap-envelope"

/-- The version whose envelope is in a namespace. -/
def ofUri? (uri : String) : Option Protocol :=
  if uri = envelopeUri .soap11 then some .soap11
  else if uri = envelopeUri .soap12 then some .soap12
  else none

/-- The content type of a message sent over HTTP. -/
def contentType : Protocol → String
  | .soap11 => "text/xml; charset=\"utf-8\""
  | .soap12 => "application/soap+xml; charset=\"utf-8\""

/-- Every version is recognised by its namespace. -/
@[simp] theorem ofUri?_envelopeUri (protocol : Protocol) :
    ofUri? protocol.envelopeUri = some protocol := by
  cases protocol <;> decide

end Protocol

end SoapDispatch.Soap
