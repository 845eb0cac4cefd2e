import SoapDispatch.Soap.Protocol
import SoapDispatch.Text.Blank
import SoapDispatch.Xml.Element

/-!
# Faults

A fault says who is to blame, why, and optionally in which circumstances. Each version of SOAP has a
layout of its own for fault elements and its own names for two of the codes; reading accepts
both layouts and both sets of names, whatever the version of the message.
-/

namespace SoapDispatch.Soap

open SoapDispatch.Xml

/-- What a fault is about. -/
inductive FaultCode where
  | versionMismatch
  | mustUnderstand
  /-- The received message is to blame. -/
  | client
  /-- Processing failed on the side of the server. -/
  | server
deriving DecidableEq, Repr

namespace FaultCode

/-- The name of a code in a version of SOAP, without a qualifier. -/
def name : FaultCode → Protocol → String
  | .versionMismatch, _ => "VersionMismatch"
  | .mustUnderstand, _ => "MustUnderstand"
  | .client, .soap11 => "Client"
  | .client, .soap12 => "Sender"
  | .server, .soap11 => "Server"
  | .server, .soap12 => "Receiver"

/-- The code that a name of either version stands for, with or without a qualifier. -/
def ofText? (text : String) : Option FaultCode :=
  match localName (Text.trim text) with
  | "VersionMismatch" => some .versionMismatch
  | "MustUnderstand" => some .mustUnderstand
  | "Client" => some .client
  | "Sender" => some .client
  | "Server" => some .server
  | "Receiver" => some .server
  | _ => none

end FaultCode

/-- A fault that a message can carry. -/
structure Fault where
  code : FaultCode
  reason : String
  detail : Option String := none
deriving DecidableEq, Repr

/-- Why an element is no readable fault. -/
inductive FaultError where
  | missingCode
  | unknownCode (text : String)
deriving DecidableEq, Repr

/-- The wording of a refusal. -/
def FaultError.message : FaultError → String
  | missingCode => "missing fault code"
  | unknownCode text => "unknown fault code '" ++ text ++ "'"

namespace Fault

/-- The fault that says nothing in particular. -/
def internal : Fault where
  code := .server
  reason := "Internal server error"

/-- The code of a fault as it is written in a message. -/
def writtenCode (fault : Fault) (protocol : Protocol) : String :=
  envelopeName (fault.code.name protocol)

/-- The parts of a fault element in SOAP 1.1. -/
def parts11 (fault : Fault) : List Element :=
  [.ofText "faultcode" (fault.writtenCode .soap11), .ofText "faultstring" fault.reason] ++
    (fault.detail.map (.ofText "detail")).toList

/-- The element that holds the reason in SOAP 1.2, marked as English. -/
def reasonText (reason : String) : Element where
  tag := { name := envelopeName "Text", attributes := [("xml:lang", "en")] }
  children := [.text reason]

/-- The parts of a fault element in SOAP 1.2. -/
def parts12 (fault : Fault) : List Element :=
  [.ofName (envelopeName "Code")
      [(Element.ofText (envelopeName "Value") (fault.writtenCode .soap12)).toNode],
    .ofName (envelopeName "Reason") [(reasonText fault.reason).toNode]] ++
    (fault.detail.map (.ofText (envelopeName "Detail"))).toList

/-- The element that carries a fault in a message. -/
def toElement (fault : Fault) (protocol : Protocol) : Element :=
  .ofName (envelopeName "Fault") <| List.map Element.toNode <|
    match protocol with
    | .soap11 => fault.parts11
    | .soap12 => fault.parts12

/-- A child's text at the path used by SOAP 1.1, or else at the one used by SOAP 1.2. -/
def textAt? (element : Element) (name : String) (outer inner : String) : Option String :=
  ((element.child? name).or ((element.child? outer).bind (·.child? inner))).bind Element.text?

/-- Reads a fault element of either layout. -/
def ofElement (element : Element) : Except FaultError Fault :=
  match textAt? element "faultcode" "Code" "Value" with
  | none => .error .missingCode
  | some text =>
    match FaultCode.ofText? text with
    | none => .error (.unknownCode text)
    | some code =>
      .ok {
        code
        reason := (textAt? element "faultstring" "Reason" "Text").getD ""
        detail := ((element.child? "detail").or (element.child? "Detail")).bind Element.text? }

end Fault

end SoapDispatch.Soap
