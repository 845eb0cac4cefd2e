import SoapDispatch.Codec
import SoapDispatch.Endpoint

/-!
# Inputs

The payload that a received message holds for a provider. A message that carries nothing, or in
payload mode no body, holds none; the provider is then called without an input.
-/

namespace SoapDispatch.Dispatch

open SoapDispatch.Soap

/-- A message as it is received through a binding: one for optimised messages marks it as such,
whatever its own flag says. -/
def received (mtomBinding : Bool) (envelope : Envelope) : Envelope :=
  if mtomBinding then envelope.setMtom true else envelope

/-- Receiving a message raises its flag if the binding does, and changes nothing else. -/
theorem received_eq (mtomBinding : Bool) (envelope : Envelope) :
    received mtomBinding envelope = { envelope with mtom := envelope.mtom || mtomBinding } := by
  cases mtomBinding <;> simp [received, Envelope.setMtom]

/-- The payload that a received message holds. -/
def inputOf (mode : ExchangeMode) (type : PayloadType) (envelope : Envelope) :
    Except DispatchError (Option Payload) :=
  match mode with
  | .message =>
    if envelope.hasMessage then (Codec.decodeMessage type envelope).map some else .ok none
  | .payload =>
    if type = .soapMessage then .error Codec.messageModeOnly
    else
      match envelope.body? with
      | some body => if body.isEmpty then .ok none else (Codec.decode type body envelope).map some
      | none => .ok none

/-- The payload that a message holds, where there may be no message at all. -/
def inputOf? (mode : ExchangeMode) (type : PayloadType) (message : Option Envelope) :
    Except DispatchError (Option Payload) :=
  message.elim (.ok none) (inputOf mode type)

end SoapDispatch.Dispatch
