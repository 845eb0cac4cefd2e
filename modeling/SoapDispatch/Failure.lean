import SoapDispatch.DispatchError

/-!
# Failures

A failure is what stops an invocation: an error chain from a provider, an error of the dispatching
itself, or a panic. It keeps the root cause and the texts of the layers around it. The caller is
told of it by a fault, and only the root decides about code and reason.
-/

namespace SoapDispatch

open SoapDispatch.Soap

/-- One link of an error chain. -/
inductive Cause where
  | plain (text : String)
  | fault (fault : Fault)
  | dispatch (error : DispatchError)
deriving DecidableEq, Repr

/-- The text that a link shows. -/
def Cause.message : Cause → String
  | .plain text => text
  | .fault chosen => chosen.reason
  | .dispatch error => error.message

/-- An error with the layers that were put around it on its way out. -/
structure ErrorChain where
  root : Cause
  /-- The layers around the root, innermost first. -/
  layers : List Cause := []
deriving DecidableEq, Repr

/-- The links of a chain, outermost first; the root comes last. -/
def ErrorChain.links (chain : ErrorChain) : List Cause :=
  chain.layers.reverse ++ [chain.root]

/-- What supplied code panics with: a message, or a value that shows none. -/
inductive Panic where
  | text (message : String)
  | silent
deriving DecidableEq, Repr

/-- The message of a panic. -/
def Panic.message : Panic → String
  | text message => message
  | silent => "provider panicked"

/-- What a root cause is. -/
inductive Origin where
  /-- The provider has chosen the fault itself. -/
  | fault (fault : Fault)
  | dispatch (error : DispatchError)
  | handler
  | panic
deriving DecidableEq, Repr

/-- What a root cause that is a link of a chain is. -/
def Cause.origin : Cause → Origin
  | .plain _ => .handler
  | .fault chosen => .fault chosen
  | .dispatch error => .dispatch error

/-- The cause at the bottom of a failure. -/
structure RootCause where
  message : String
  origin : Origin
deriving DecidableEq, Repr

/-- What stops an invocation. -/
structure Failure where
  root : RootCause
  /-- The texts of the layers around the root, outermost first. -/
  context : List String := []
deriving DecidableEq, Repr

namespace Failure

/-- Takes up the links of a chain that are still to come, given the texts and the nature of those
taken up before. The last link is the root, so every link overrides the nature of the one before. -/
def follow (texts : List String) (origin : Origin) : List Cause → Failure
  | [] => { root := { message := texts.getLast?.getD "", origin }, context := texts.dropLast }
  | link :: rest => follow (texts ++ [link.message]) link.origin rest

/-- The failure that an error chain is. -/
def capture (chain : ErrorChain) : Failure :=
  follow [] .handler chain.links

/-- The failure that an error of the dispatching is. -/
def ofDispatch (error : DispatchError) : Failure where
  root := { message := error.message, origin := .dispatch error }

/-- The failure that a panic is. -/
def ofPanic (panic : Panic) : Failure where
  root := { message := panic.message, origin := .panic }

/-- The message of the root cause. -/
def message (failure : Failure) : String :=
  failure.root.message

/-- The failure as an error of the dispatching. -/
def error (failure : Failure) : DispatchError :=
  match failure.root.origin with
  | .dispatch error => error
  | _ => .handlerFailure failure.message

/-- The texts of the layers and of the root, outermost first. -/
def display (failure : Failure) : String :=
  String.join (failure.context.map (· ++ ": ")) ++ failure.message

/-- The code of the fault for a root cause that is none itself: only the received message can put
the blame on the client. -/
def faultCode (origin : Origin) : FaultCode :=
  match origin with
  | .dispatch error => if error.isClientError then .client else .server
  | _ => .server

/-- The fault that tells the caller of a failure: the one the provider has chosen, or else one with
the message of the root cause, or the internal fault where that message is blank. -/
def toFault (failure : Failure) : Fault :=
  match failure.root.origin with
  | .fault fault => fault
  | origin =>
    if Text.isBlank failure.message then .internal
    else {
      code := faultCode origin
      reason := failure.message
      detail := if failure.context.isEmpty then none else some failure.display }

end Failure

end SoapDispatch
