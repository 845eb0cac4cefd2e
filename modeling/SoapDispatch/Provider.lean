import SoapDispatch.Contract
import SoapDispatch.Failure
import SoapDispatch.Payload

/-!
# Providers

A provider takes a payload or nothing and returns a payload or nothing, fails with an error chain,
or panics. A typed provider works on values of one type; payloads of another type never reach its
handler.
-/

namespace SoapDispatch

/-- How a call of supplied code ends. -/
inductive Outcome (α : Type) where
  | value (value : Option α)
  | failure (chain : ErrorChain)
  | panic (panic : Panic)

/-- The same outcome with another form of its value. -/
def Outcome.map {α β : Type} (change : α → β) : Outcome α → Outcome β
  | value result => .value (result.map change)
  | failure chain => .failure chain
  | panic cause => .panic cause

/-- What a call of a provider amounts to. -/
structure Reply where
  /-- The input that the handler was called with, if it was called. -/
  handled : Option (Option Payload)
  outcome : Outcome Payload

/-- A provider: what it declares, and how it replies to an input. -/
structure Provider where
  contract : Contract
  reply : Option Payload → Reply

namespace Provider

/-- A provider whose handler takes payloads as they come. -/
def dynamic (contract : Contract) (handler : Option Payload → Outcome Payload) : Provider where
  contract
  reply input := { handled := some input, outcome := handler input }

/-- The handler of values of one type that a handler of all payloads makes: a payload of another
type that it returns is an error of the dispatching. -/
def narrow (type : PayloadType) (handler : Option Payload → Outcome Payload)
    (input : Option type.Value) : Outcome type.Value :=
  match handler (input.map (Payload.ofValue type)) with
  | .value none => .value none
  | .value (some payload) =>
    match payload.require type with
    | .ok value => .value (some value)
    | .error error => .failure { root := .dispatch error }
  | .failure chain => .failure chain
  | .panic cause => .panic cause

/-- A provider whose handler takes values of one type. -/
def typed (type : PayloadType) (className : String)
    (handler : Option type.Value → Outcome type.Value) : Provider where
  contract := .declared className type.declarationName
  reply input :=
    match input with
    | none => { handled := some none, outcome := (handler none).map (Payload.ofValue type) }
    | some payload =>
      match payload.require type with
      | .ok value =>
        { handled := some (some payload)
          outcome := (handler (some value)).map (Payload.ofValue type) }
      | .error error => { handled := none, outcome := .failure { root := .dispatch error } }

end Provider

end SoapDispatch
