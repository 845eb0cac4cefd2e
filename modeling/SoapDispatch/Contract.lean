import SoapDispatch.DispatchError

/-!
# Provider contracts

A provider declares its class and its type arguments. The payload type it works on is its only
argument; it is found out once for every class and remembered from then on. Resolving consists of
three steps that other calls may come between: a look at the memory, the reading of the contract,
and remembering its result unless something is remembered by then.
-/

namespace SoapDispatch

/-- What a provider declares of itself. -/
structure Contract where
  className : String
  typeArguments : List String
deriving DecidableEq, Repr

namespace Contract

/-- The contract of a provider with one type argument. -/
def declared (className typeName : String) : Contract where
  className
  typeArguments := [typeName]

/-- The payload type that a contract declares. -/
def payloadType (contract : Contract) : Except TypeRefusal PayloadType :=
  match contract.typeArguments with
  | [] => .error (.notParameterized contract.className)
  | [name] =>
    match PayloadType.ofDeclaration? name with
    | some type => .ok type
    | none => .error (.unknownType contract.className name)
  | names => .error (.severalTypes contract.className names.length)

end Contract

/-- The payload types found out so far, by provider class. -/
abbrev TypeMemory := Dictionary PayloadType

namespace TypeMemory

/-- Remembers the type of a class unless one is remembered already; gives the one that is remembered
afterwards. -/
def remember (memory : TypeMemory) (className : String) (type : PayloadType) :
    PayloadType × TypeMemory :=
  match memory.get? className with
  | some known => (known, memory)
  | none => (type, Dictionary.insert className type memory)

/-- The payload type of a provider, and what is remembered afterwards. Refusals are not
remembered. -/
def resolve (memory : TypeMemory) (contract : Contract) :
    Except DispatchError PayloadType × TypeMemory :=
  match memory.get? contract.className with
  | some known => (.ok known, memory)
  | none =>
    match contract.payloadType with
    | .error cause => (.error (.unsupportedPayloadType cause), memory)
    | .ok type =>
      let (known, memory) := memory.remember contract.className type
      (.ok known, memory)

end TypeMemory

end SoapDispatch
