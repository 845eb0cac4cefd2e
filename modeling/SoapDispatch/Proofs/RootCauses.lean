import SoapDispatch.Failure

/-!
# Root causes

A failure that captures an error chain keeps the root of the chain and the texts of the layers
around it. What a layer is counts for nothing, be it a fault or an error of the dispatching: the
root alone decides about the code and the reason of the fault that the failure becomes, and the
texts of the layers are its detail. No fault has a blank reason unless a provider has chosen it.
-/

namespace SoapDispatch

open SoapDispatch.Soap

/-- What refuses a malformed payload says so. -/
theorem DispatchError.isBlank_message_malformedPayload (cause : Malformation) :
    Text.isBlank (malformedPayload cause).message = false := by
  have wording : (malformedPayload cause).message = "Malformed payload: " ++ cause.message := rfl
  have visible : Text.isBlank "Malformed payload: " = false := by decide
  rw [wording, Text.isBlank_append, visible, Bool.false_and]

namespace Failure

/-! ## Capturing chains -/

/-- The last link of a chain decides about the root, and all the others become context. -/
theorem follow_concat (texts : List String) (origin : Origin) (links : List Cause) (root : Cause) :
    follow texts origin (links ++ [root]) =
      { root := { message := root.message, origin := root.origin }
        context := texts ++ links.map Cause.message } := by
  induction links generalizing texts origin with
  | nil => simp [follow]
  | cons link rest inductionHypothesis =>
    rw [List.cons_append, follow, inductionHypothesis]
    simp

/-- An error chain leaves its root, whatever layers are around it, and the texts of the layers,
outermost first. -/
theorem capture_eq (chain : ErrorChain) : capture chain =
    { root := { message := chain.root.message, origin := chain.root.origin }
      context := chain.layers.reverse.map Cause.message } := by
  rw [capture, ErrorChain.links, follow_concat, List.nil_append]

/-- Texts that each end in a separator, and one behind them, are the texts with the separator
between them. -/
theorem join_eq_intercalate (separator last : String) (texts : List String) :
    String.join (texts.map (· ++ separator)) ++ last =
      separator.intercalate (texts ++ [last]) := by
  induction texts with
  | nil => simp
  | cons text rest inductionHypothesis =>
    have more : rest ++ [last] ≠ [] := List.append_ne_nil_of_right_ne_nil rest (by simp)
    rw [List.cons_append, String.intercalate_cons_of_ne_nil more, ← inductionHypothesis]
    simp [String.append_assoc]

/-- A failure shows its texts with colons between them, the message of the root last. -/
theorem display_eq (failure : Failure) :
    failure.display = ": ".intercalate (failure.context ++ [failure.message]) :=
  join_eq_intercalate ..

/-- A failure is told of as an error of the dispatching if its root is one, and as one of the
handler if not. -/
theorem error_of_origin {failure : Failure}
    (other : ∀ error, failure.root.origin ≠ .dispatch error) :
    failure.error = .handlerFailure failure.message := by
  unfold error
  split
  · next error nature => exact absurd nature (other error)
  · rfl

/-! ## Faults -/

/-- The message of a failure of the dispatching is the wording of the error. -/
def Worded (failure : Failure) : Prop :=
  ∀ error, failure.root.origin = .dispatch error → failure.message = error.message

/-- The client is blamed for malformed payloads only. -/
theorem faultCode_eq_client_iff {origin : Origin} :
    faultCode origin = .client ↔ ∃ cause, origin = .dispatch (.malformedPayload cause) := by
  cases origin with
  | dispatch error => cases error <;> simp [faultCode, DispatchError.isClientError]
  | fault | handler | panic => simp [faultCode]

/-- Whoever is not the client is the server. -/
theorem faultCode_eq_server_iff {origin : Origin} :
    faultCode origin = .server ↔ faultCode origin ≠ .client := by
  cases origin with
  | dispatch error => cases error <;> simp [faultCode, DispatchError.isClientError]
  | fault | handler | panic => simp [faultCode]

/-- The fault of a failure is the one that was chosen. -/
theorem toFault_of_chosen {failure : Failure} {fault : Fault}
    (chosen : failure.root.origin = .fault fault) : failure.toFault = fault := by
  simp only [toFault, chosen]

section NotChosen

variable {failure : Failure} (own : ∀ fault, failure.root.origin ≠ .fault fault)

include own

/-- The fault of a failure that was not chosen says what the root says, if that is anything. -/
theorem toFault_eq_ite : failure.toFault =
    if Text.isBlank failure.message then .internal
    else {
      code := faultCode failure.root.origin
      reason := failure.message
      detail := if failure.context.isEmpty then none else some failure.display } := by
  rcases nature : failure.root.origin with fault | error | _ | _
  · exact absurd nature (own fault)
  all_goals simp only [toFault, nature]

/-- The fault of a failure that was not chosen has the message of the root as its reason, and the
nature of the root decides about the code. -/
theorem toFault_of_not_chosen (worded : failure.Worded) :
    failure.toFault.code = faultCode failure.root.origin ∧ failure.toFault.reason =
      if Text.isBlank failure.message then Fault.internal.reason else failure.message := by
  rw [toFault_eq_ite own]
  by_cases blank : Text.isBlank failure.message = true
  · -- A malformed payload always has something to say, so the internal fault has the right code.
    have innocent : faultCode failure.root.origin ≠ .client := by
      intro client
      obtain ⟨cause, nature⟩ := faultCode_eq_client_iff.1 client
      rw [worded _ nature, DispatchError.isBlank_message_malformedPayload] at blank
      exact nomatch blank
    rw [if_pos blank, if_pos blank]
    exact ⟨(faultCode_eq_server_iff.2 innocent).symm, rfl⟩
  · rw [if_neg blank, if_neg blank]
    exact ⟨rfl, rfl⟩

/-- A fault that was not chosen says something. -/
theorem isBlank_reason_toFault : Text.isBlank failure.toFault.reason = false := by
  rw [toFault_eq_ite own]
  split
  · decide
  · next visible => exact Bool.not_eq_true _ ▸ visible

end NotChosen

end Failure

/-! ## The root alone decides -/

section Cause

variable {cause : Cause}

/-- Only a fault is of the nature of one. -/
theorem Cause.origin_eq_fault_iff {fault : Fault} :
    cause.origin = .fault fault ↔ cause = .fault fault := by
  cases cause <;> simp [origin]

/-- Only an error of the dispatching is of the nature of one. -/
theorem Cause.origin_eq_dispatch_iff {error : DispatchError} :
    cause.origin = .dispatch error ↔ cause = .dispatch error := by
  cases cause <;> simp [origin]

end Cause

namespace Failure

/-- What is captured of a chain is worded as its root. -/
theorem worded_capture (chain : ErrorChain) : (capture chain).Worded := by
  intro error nature
  rw [capture_eq] at nature ⊢
  rw [message, Cause.origin_eq_dispatch_iff.1 nature, Cause.message]

/-- An error of the dispatching fails like a chain of nothing else. -/
theorem ofDispatch_eq_capture (error : DispatchError) :
    ofDispatch error = capture { root := .dispatch error } := by
  rw [capture_eq]
  rfl

/-- What a failure keeps of an error that layers are put around, innermost first. -/
structure Captures (failure : Failure) (root : Cause) (layers : List Cause) : Prop where
  message : failure.message = root.message
  origin : failure.root.origin = root.origin
  context : failure.context = layers.reverse.map Cause.message
  display : failure.display =
    ": ".intercalate (layers.reverse.map Cause.message ++ [root.message])
  /-- As an error of the dispatching a failure is its root, if that is one. -/
  own : ∀ error, root = .dispatch error → failure.error = error
  handler : (∀ error, root ≠ .dispatch error) → failure.error = .handlerFailure root.message

/-- What a fault tells of an error that layers are put around, innermost first. -/
structure Translates (fault : Fault) (root : Cause) (layers : List Cause) : Prop where
  /-- A fault that the provider has chosen stays as it is. -/
  chosen : ∀ chosen, root = .fault chosen → fault = chosen
  /-- An error that says nothing is not told of. -/
  silent : (∀ chosen, root ≠ .fault chosen) → Text.isBlank root.message = true →
    fault = .internal
  reason : (∀ chosen, root ≠ .fault chosen) → Text.isBlank root.message = false →
    fault.reason = root.message
  detail : (∀ chosen, root ≠ .fault chosen) → Text.isBlank root.message = false →
    fault.detail = if layers = [] then none
      else some (": ".intercalate (layers.reverse.map Cause.message ++ [root.message]))
  client : (∀ chosen, root ≠ .fault chosen) →
    (fault.code = .client ↔ ∃ cause, root = .dispatch (.malformedPayload cause))
  server : (∀ chosen, root ≠ .fault chosen) →
    (fault.code = .server ↔ ¬∃ cause, root = .dispatch (.malformedPayload cause))

section Capture

variable (root : Cause) (layers : List Cause)

/-- A failure keeps the root and the texts of the layers. -/
theorem captures_capture : (capture { root, layers }).Captures root layers := by
  have same := capture_eq { root, layers }
  constructor
  case message => rw [same, message]
  case origin => rw [same]
  case context => rw [same]
  case display => rw [display_eq, same, message]
  case own =>
    rintro error rfl
    rw [same]
    rfl
  case handler =>
    intro other
    have nature (error : DispatchError) :
        (capture { root, layers }).root.origin ≠ .dispatch error := by
      rw [same]
      exact fun equal => other error (Cause.origin_eq_dispatch_iff.1 equal)
    rw [error_of_origin nature, same, message]

/-- The fault of a failure tells what the root says and, as its detail, what is around it. -/
theorem translates_capture : Translates (capture { root, layers }).toFault root layers := by
  have kept := captures_capture root layers
  have own (other : ∀ chosen, root ≠ .fault chosen) (fault : Fault) :
      (capture { root, layers }).root.origin ≠ .fault fault := by
    rw [kept.origin]
    exact fun equal => other fault (Cause.origin_eq_fault_iff.1 equal)
  have blames (other : ∀ chosen, root ≠ .fault chosen) :
      (capture { root, layers }).toFault.code = faultCode root.origin := by
    rw [(toFault_of_not_chosen (own other) (worded_capture _)).1, kept.origin]
  have client_iff : faultCode root.origin = .client ↔
      ∃ cause, root = .dispatch (.malformedPayload cause) := by
    simp only [faultCode_eq_client_iff, Cause.origin_eq_dispatch_iff]
  constructor
  case chosen =>
    rintro chosen rfl
    exact toFault_of_chosen kept.origin
  case silent =>
    intro other blank
    rw [toFault_eq_ite (own other), kept.message, if_pos blank]
  case reason =>
    intro other visible
    rw [toFault_eq_ite (own other), kept.message, visible, if_neg Bool.false_ne_true]
  case detail =>
    intro other visible
    rw [toFault_eq_ite (own other), kept.message, visible, if_neg Bool.false_ne_true]
    simp only [kept.context, kept.display, List.isEmpty_map, List.isEmpty_reverse,
      List.isEmpty_iff]
  case client =>
    intro other
    rw [blames other, client_iff]
  case server =>
    intro other
    rw [blames other, faultCode_eq_server_iff, Ne, client_iff]

end Capture

/-- The root of an error decides about its failure and its fault, and the layers around it, whatever
they are, are context and detail. So the code and the reason are the same whatever layers there are,
and a fault that no provider has chosen never has a blank reason. An error of the dispatching itself
is a root with nothing around it. -/
theorem root_decides :
    (∀ (root : Cause) (layers : List Cause),
      let failure := capture { root, layers }
      failure.Captures root layers ∧ Translates failure.toFault root layers ∧
        ∀ others : List Cause,
          let other := (capture { root, layers := others }).toFault
          other.code = failure.toFault.code ∧ other.reason = failure.toFault.reason) ∧
    (∀ failure : Failure, (∀ fault, failure.root.origin ≠ .fault fault) →
      Text.isBlank failure.toFault.reason = false) ∧
    ∀ error : DispatchError, ofDispatch error = capture { root := .dispatch error } := by
  refine ⟨?chains, fun failure => isBlank_reason_toFault, ofDispatch_eq_capture⟩
  case chains =>
    intro root layers failure
    refine ⟨captures_capture root layers, translates_capture root layers, fun others => ?_⟩
    by_cases chosen : ∃ fault, root = .fault fault
    · obtain ⟨fault, rfl⟩ := chosen
      simp only [failure, (translates_capture _ others).chosen fault rfl,
        (translates_capture _ layers).chosen fault rfl, and_self]
    · have own (layers : List Cause) (fault : Fault) :
          (capture { root, layers }).root.origin ≠ .fault fault := by
        rw [(captures_capture root layers).origin]
        exact fun equal => chosen ⟨fault, Cause.origin_eq_fault_iff.1 equal⟩
      obtain ⟨code, reason⟩ := toFault_of_not_chosen (own others) (worded_capture _)
      obtain ⟨codeToo, reasonToo⟩ := toFault_of_not_chosen (own layers) (worded_capture _)
      rw [(captures_capture root others).origin] at code
      rw [(captures_capture root layers).origin] at codeToo
      rw [(captures_capture root others).message] at reason
      rw [(captures_capture root layers).message] at reasonToo
      exact ⟨code.trans codeToo.symm, reason.trans reasonToo.symm⟩

/-- Layers that are a fault and an error of the dispatching are texts around an error that says
something, and nothing at all around one that does not. -/
example :
    let layers : List Cause := [.fault { code := .client, reason := "bad id" },
      .dispatch (.malformedPayload .emptyBody)]
    (capture { root := .plain "timeout", layers }).toFault =
        { code := .server, reason := "timeout",
          detail := some "Malformed payload: empty body: bad id: timeout" } ∧
      (capture { root := .plain " ", layers }).toFault = .internal := by
  decide +kernel

end Failure

end SoapDispatch
