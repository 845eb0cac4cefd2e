import SoapDispatch.DispatchError

/-!
# Payloads

A payload is a value of one of the payload types. Where the type is known, values are taken from
`PayloadType.Value`; `Payload.value?` goes from the one form to the other.
-/

namespace SoapDispatch

open SoapDispatch.Soap SoapDispatch.Xml

/-- A value that a provider takes or returns. -/
inductive Payload where
  | text (text : String)
  | source (element : Element)
  | message (envelope : Envelope)
  | data (data : DataSource)

/-- The values of one payload type. -/
abbrev PayloadType.Value : PayloadType → Type
  | .text => String
  | .source => Element
  | .soapMessage => Envelope
  | .dataSource => DataSource

namespace Payload

/-- The type of a payload. -/
def payloadType : Payload → PayloadType
  | text _ => .text
  | source _ => .source
  | message _ => .soapMessage
  | data _ => .dataSource

/-- A value of a known type as a payload. -/
def ofValue : (type : PayloadType) → type.Value → Payload
  | .text, value => text value
  | .source, value => source value
  | .soapMessage, value => message value
  | .dataSource, value => data value

/-- The value of a payload, if it is of the given type. -/
def value? : (type : PayloadType) → Payload → Option type.Value
  | .text, text value => some value
  | .source, source value => some value
  | .soapMessage, message value => some value
  | .dataSource, data value => some value
  | _, _ => none

/-- The value of a payload that has to be of the given type. -/
def require (type : PayloadType) (payload : Payload) : Except DispatchError type.Value :=
  match payload.value? type with
  | some value => .ok value
  | none => .error (.malformedPayload (.typeMismatch type payload.payloadType))

/-- A payload made from a value of a type is of that type. -/
@[simp] theorem payloadType_ofValue (type : PayloadType) (value : type.Value) :
    (ofValue type value).payloadType = type := by
  cases type <;> rfl

/-- The value that a payload was made from is found again. -/
@[simp] theorem value?_ofValue (type : PayloadType) (value : type.Value) :
    value? type (ofValue type value) = some value := by
  cases type <;> rfl

/-- A payload has a value of a type exactly when it is of that type. -/
theorem isSome_value?_iff (type : PayloadType) (payload : Payload) :
    (value? type payload).isSome ↔ payload.payloadType = type := by
  cases type <;> cases payload <;> simp [value?, payloadType]

end Payload

end SoapDispatch
