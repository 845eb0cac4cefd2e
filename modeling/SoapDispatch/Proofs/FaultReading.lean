import SoapDispatch.Proofs.Blame
import SoapDispatch.Proofs.Reachable

/-!
# Bodies that are read as faults

Reading takes the first element in a body that is called a fault for a fault, whatever namespace the
name is in. A body comes back from the element of its message exactly when it has no such element;
otherwise what comes back is the fault that this element can be read as, or a refusal if it cannot.
-/

namespace SoapDispatch

open SoapDispatch.Xml SoapDispatch.Soap SoapDispatch.Dispatch

namespace Soap

/-- Whether an element is outside the namespaces of envelopes, as far as its name has been resolved
or its attributes declare one. -/
def Foreign (element : Element) : Prop :=
  ∀ protocol : Protocol, declaredUri? element ≠ some protocol.envelopeUri

/-- The element of a body that reading takes for a fault. -/
def Body.faultElement? (body : Body) : Option Element :=
  (elementsOf body.nodes).find? fun element => element.localName == "Fault"

/-- A body is free of faults when none is found in it. -/
theorem Body.faultElement?_eq_none_iff {body : Body} :
    body.faultElement? = none ↔ body.FaultFree := by
  simp [faultElement?, FaultFree]

namespace Envelope

/-- Whether a body is what is read from the element of its message. -/
def Rereads (envelope : Envelope) (body : Body) : Prop :=
  ∃ read, ofElement envelope.toElement = .ok read ∧ read.isFault = false ∧ read.body? = some body

variable {envelope : Envelope} {body : Body}

/-- A message with a fault in its body is read as that fault, or refused with it. -/
theorem ofElement_toElement_of_fault {fault : Element} (known : envelope.body? = some body)
    (found : body.faultElement? = some fault) : ofElement envelope.toElement =
      ((Fault.ofElement fault).mapError .invalidFault).map envelope.bare.setFault := by
  have root : envelope.toElement.localName = "Envelope" :=
    localName_envelopeName "Envelope" (by decide)
  have nodes : envelope.bodyNodes = body.nodes := by
    rw [bodyNodes, body?_eq_some_iff.1 known]
  have first : (Element.ofName (envelopeName "Body") body.nodes).child? "Fault" = some fault :=
    found
  have content : contentOf (.ofName (envelopeName "Body") envelope.bodyNodes) =
      (Fault.ofElement fault).map .fault := by
    rw [contentOf, nodes, first]
  simp only [ofElement, root, ne_eq, not_true_eq_false, if_false, declaredUri?_toElement,
    Protocol.ofUri?_envelopeUri, child?_body, content, headers_toElement]
  cases Fault.ofElement fault <;> rfl

/-- The body of a sound message comes back exactly when it has no element that is taken for a
fault. -/
theorem Sound.rereads_iff (sound : envelope.Sound) (known : envelope.body? = some body) :
    envelope.Rereads body ↔ body.FaultFree := by
  constructor
  · rintro ⟨read, parsed, noFault, _⟩
    rw [← Body.faultElement?_eq_none_iff]
    cases found : body.faultElement? with
    | none => rfl
    | some fault =>
      rw [ofElement_toElement_of_fault known found] at parsed
      obtain ⟨carried, _, rfl⟩ := exists_of_map_eq_ok parsed
      exact nomatch noFault
  · intro faultFree
    have only : ∀ other, envelope.body? = some other → other.FaultFree := by
      intro other same
      rw [← Option.some.inj (known.symm.trans same)]
      exact faultFree
    refine ⟨envelope.bare, sound.ofElement_toElement only, ?_, known⟩
    have content : envelope.bare.content = .body body := body?_eq_some_iff.1 known
    rw [isFault, fault?, content]
    rfl

end Envelope

end Soap

/-- In payload mode an element is answered by a message with that element in its body, from whose
element it comes back unless it is called a fault. -/
theorem Dispatch.Responder.exists_respondValue_source {responder : Responder}
    (mode : responder.mode = .payload) (element : Element) (ids : IdSupply) :
    ∃ response, responder.respondValue .source (some (.source element)) ids =
        .ok (response, ids) ∧ response.body? = some (.ofElement element) ∧
      (response.Rereads (.ofElement element) ↔ element.localName ≠ "Fault") := by
  have encoded : Codec.encode .source (.source element) responder.emptyResponse ids =
      .ok ⟨.ofElement element, responder.emptyResponse, ids⟩ := rfl
  let plain := responder.emptyResponse.setBody (.ofElement element)
  let response := if responder.mtom then plain.setMtom true else plain
  have content : response.content = plain.content := by
    simp only [response]
    split <;> rfl
  have sound : response.Sound :=
    (Envelope.sound_setBody _ (Body.clean_ofElement element)).of_content content
  have known : response.body? = some (.ofElement element) := by
    rw [Envelope.body?_eq_some_iff, content]
    rfl
  refine ⟨response, ?_, known, ?_⟩
  · rw [respondValue_of_payload mode, encoded]
  · have only : elementsOf (Body.ofElement element).nodes = [element] :=
      Element.elementsOf_singleton element
    rw [sound.rereads_iff known, Body.FaultFree, only, List.forall_mem_singleton]

/-- The body of a message that can be built is read from the element of the message exactly when no
element at its top is called a fault, in whatever namespace; otherwise the first such element is
read as a fault, or refused. An element that is answered in payload mode comes back likewise. -/
theorem body_rereads_iff {envelope : Envelope} {body : Body} {responder : Responder}
    (built : envelope.Reachable) (known : envelope.body? = some body)
    (mode : responder.mode = .payload) (element : Element) (ids : IdSupply) :
    (envelope.Rereads body ↔ ∀ element ∈ elementsOf body.nodes, element.localName ≠ "Fault") ∧
    (∀ fault, (elementsOf body.nodes).find? (fun element => element.localName == "Fault") =
        some fault →
      Envelope.ofElement envelope.toElement =
        ((Fault.ofElement fault).mapError .invalidFault).map envelope.bare.setFault) ∧
    ∃ response, responder.respondValue .source (some (.source element)) ids =
        .ok (response, ids) ∧ response.body? = some (.ofElement element) ∧
      (response.Rereads (.ofElement element) ↔ element.localName ≠ "Fault") := by
  refine ⟨built.sound.rereads_iff known, ?_, ?_⟩
  · intro fault found
    exact Envelope.ofElement_toElement_of_fault known found
  · exact Responder.exists_respondValue_source mode element ids

/-- An element of an application that reports what went wrong there. -/
def applicationFault : Element where
  tag := { name := "Fault", attributes := [("xmlns", "urn:app")] }
  children := [(Element.ofName "Code" [(Element.ofText "Value" "Client").toNode]).toNode]

/-- It is outside the namespaces of envelopes. -/
theorem foreign_applicationFault : Foreign applicationFault := by
  intro protocol
  cases protocol <;> decide

/-- Reading takes it for a fault all the same. -/
theorem faultElement?_applicationFault :
    (Body.ofElement applicationFault).faultElement? = some applicationFault := rfl

/-- A greeting is read again; what an application reports is read as a fault. -/
theorem body_rereads_iff_application :
    (Envelope.ofBody .soap11 (.ofElement (.ofText "greeting" "hello"))).Rereads
        (.ofElement (.ofText "greeting" "hello")) ∧
    Envelope.ofElement (Envelope.ofBody .soap11 (.ofElement applicationFault)).toElement =
        .ok (Envelope.ofFault .soap11 { code := .client, reason := "" }) ∧
    ∃ response, (Responder.mk .payload .soap11 false).respondValue .source
        (some (.source applicationFault)) { unique := fun _ => "" } =
          .ok (response, { unique := fun _ => "" }) ∧
      ¬ response.Rereads (.ofElement applicationFault) := by
  let responder := Responder.mk .payload .soap11 false
  let ids : IdSupply := { unique := fun _ => "" }
  have called : applicationFault.localName = "Fault" := by decide
  have calledGreeting : (Element.ofText "greeting" "hello").localName ≠ "Fault" := by decide
  obtain ⟨greeting, _⟩ := @body_rereads_iff _ _ responder
    (.ofBody .soap11 (.ofElement (.ofText "greeting" "hello"))) rfl rfl applicationFault ids
  obtain ⟨_, report, response, answered, _, rereads⟩ := @body_rereads_iff _ _ responder
    (.ofBody .soap11 (.ofElement applicationFault)) rfl rfl applicationFault ids
  refine ⟨greeting.2 ?_, report _ faultElement?_applicationFault, response, answered, ?_⟩
  · intro element member
    rw [List.mem_singleton.1 member]
    exact calledGreeting
  · intro reread
    exact rereads.1 reread called

/-- So a body of foreign elements need not be read again. -/
theorem not_rereads_of_foreign :
    ¬ ∀ (envelope : Envelope) (body : Body), envelope.Reachable → envelope.body? = some body →
      (∀ element ∈ elementsOf body.nodes, Foreign element) → envelope.Rereads body := by
  intro claimed
  have built : (Envelope.ofBody .soap11 (.ofElement applicationFault)).Reachable :=
    .ofBody .soap11 (.ofElement applicationFault)
  have rereads := claimed _ (.ofElement applicationFault) built rfl fun element member => by
    rw [List.mem_singleton.1 member]
    exact foreign_applicationFault
  have free := (built.sound.rereads_iff rfl).1 rereads
  exact free applicationFault (List.mem_singleton_self _) (by decide)

end SoapDispatch
