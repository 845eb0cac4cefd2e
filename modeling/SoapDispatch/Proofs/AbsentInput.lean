import SoapDispatch.Proofs.Reachable

/-!
# Messages without an input

A provider gets no input if there is no message, if a message that is exchanged as a whole carries
nothing at all, or if one whose body is exchanged has none. A body that envelopes are built with
always has something to read, so nothing but the presence of a body matters in payload mode.
-/

namespace SoapDispatch

open SoapDispatch.Xml SoapDispatch.Soap SoapDispatch.Dispatch

/-- Whole messages are read as payloads of the type that is asked for. -/
theorem Codec.payloadType_of_decodeMessage {type : PayloadType} {envelope : Envelope}
    {payload : Payload} (done : decodeMessage type envelope = .ok payload) :
    payload.payloadType = type := by
  cases type with
  | text | source | soapMessage =>
    cases done
    rfl
  | dataSource =>
    obtain ⟨_, _, made⟩ := exists_of_map_eq_ok done
    cases made
    rfl

namespace Soap.Envelope

/-- A message carries nothing when it is a new one up to its flag. -/
theorem hasMessage_eq_false_iff {envelope : Envelope} :
    envelope.hasMessage = false ↔ { envelope with mtom := false } = new envelope.protocol := by
  obtain ⟨protocol, mtom, headers, content, attachments⟩ := envelope
  cases content <;> simp [hasMessage, new]

end Soap.Envelope

namespace Dispatch

variable {mode : ExchangeMode} {type : PayloadType} {envelope : Envelope}

/-- What a message holds is of the type that is asked for. -/
theorem payloadType_of_inputOf {payload : Payload}
    (done : inputOf mode type envelope = .ok (some payload)) : payload.payloadType = type := by
  rcases Envelope.decoded_of_inputOf done with whole | ⟨body, _, read⟩
  · exact Codec.payloadType_of_decodeMessage whole
  · exact Codec.payloadType_of_decode read

/-- So it is where there may be no message at all. -/
theorem payloadType_of_inputOf? {message : Option Envelope} {payload : Payload}
    (done : inputOf? mode type message = .ok (some payload)) : payload.payloadType = type := by
  cases message with
  | none => exact nomatch done
  | some envelope => exact payloadType_of_inputOf done

/-- What is read is something. -/
theorem map_some_ne {result : Except DispatchError Payload} : result.map some ≠ .ok none := by
  cases result <;> simp [Except.map]

/-- In message mode a message holds nothing if it carries nothing. -/
theorem inputOf_message_eq_none_iff :
    inputOf .message type envelope = .ok none ↔ envelope.hasMessage = false := by
  cases carries : envelope.hasMessage <;> simp [inputOf, carries, map_some_ne]

/-- In payload mode a sound message holds nothing if it has no body. -/
theorem inputOf_payload_eq_none_iff (sound : envelope.Sound) :
    inputOf .payload type envelope = .ok none ↔
      type ≠ .soapMessage ∧ ∀ body, envelope.content ≠ .body body := by
  by_cases whole : type = .soapMessage
  · simp [inputOf, whole]
  · cases content : envelope.content with
    | empty | fault => simp [inputOf, whole, Envelope.body?, content]
    | body body =>
      simp [inputOf, whole, Envelope.body?, content, (sound body content).1, map_some_ne]

/-- A sound message that is received holds nothing if it carries nothing in message mode, or has no
body in payload mode. -/
theorem inputOf_received_eq_none_iff (sound : envelope.Sound) (mtomBinding : Bool) :
    inputOf mode type (received mtomBinding envelope) = .ok none ↔
      (mode = .message ∧ { envelope with mtom := false } = Envelope.new envelope.protocol) ∨
      (mode = .payload ∧ type ≠ .soapMessage ∧ ∀ body, envelope.content ≠ .body body) := by
  rw [received_eq]
  cases mode with
  | message => simp [inputOf_message_eq_none_iff, Envelope.hasMessage_eq_false_iff]
  | payload =>
    have same : Envelope.Sound { envelope with mtom := envelope.mtom || mtomBinding } :=
      sound.of_content rfl
    simp [inputOf_payload_eq_none_iff same]

/-- Whatever envelopes are built, their bodies have nodes, and none that is blank text. So there is
no input where there is no message, where a whole message is new up to its flag, or where the
content of a message is no body; everywhere else there is a payload of the type that is asked for,
or an error. Receiving a message changes its flag alone. -/
theorem absent_input :
    (∀ envelope : Envelope, envelope.Reachable → ∀ body, envelope.content = .body body →
      body.nodes ≠ [] ∧ ∀ text, .text text ∈ body.nodes → Text.isBlank text = false) ∧
    ∀ (mode : ExchangeMode) (type : PayloadType) (mtomBinding : Bool) (message : Option Envelope),
      (∀ envelope, message = some envelope → envelope.Reachable) →
        let input := inputOf? mode type (message.map (received mtomBinding))
        (input = .ok none ↔
          message = none ∨
          (mode = .message ∧ ∃ envelope, message = some envelope ∧
            { envelope with mtom := false } = Envelope.new envelope.protocol) ∨
          (mode = .payload ∧ type ≠ .soapMessage ∧ ∃ envelope, message = some envelope ∧
            ∀ body, envelope.content ≠ .body body)) ∧
        (input ≠ .ok none →
          (∃ payload, input = .ok (some payload) ∧ payload.payloadType = type) ∨
            ∃ error, input = .error error) ∧
        message.map (received mtomBinding) =
          message.map fun envelope => { envelope with mtom := envelope.mtom || mtomBinding } := by
  refine ⟨?bodies, ?inputs⟩
  case bodies =>
    intro envelope built body known
    obtain ⟨filled, clean⟩ := built.sound body known
    exact ⟨List.isEmpty_eq_false_iff.1 filled, fun text member => clean _ member⟩
  case inputs =>
    intro mode type mtomBinding message built input
    refine ⟨?_, ?_, congrArg (Option.map · message) (funext (received_eq mtomBinding))⟩
    · cases message with
      | none => exact iff_of_true rfl (.inl rfl)
      | some envelope =>
        have law := @inputOf_received_eq_none_iff mode type envelope (built envelope rfl).sound
          mtomBinding
        simpa [input, inputOf?] using law
    · intro present
      cases known : input with
      | error error => exact .inr ⟨error, rfl⟩
      | ok value =>
        cases value with
        | none => exact absurd known present
        | some payload => exact .inl ⟨payload, rfl, payloadType_of_inputOf? known⟩

/-- A message with a header and an attachment holds nothing in payload mode, and neither does a
fault; in message mode the former holds itself. A message that carries nothing but its flag holds
nothing. -/
theorem absent_input_bodiless :
    let laden := ((Envelope.new .soap12).addHeader (.ofText "h" "")).attach "a" ⟨"text/plain", []⟩
    let fault := Envelope.ofFault .soap11 { code := .client, reason := "r" }
    inputOf? .payload .text ((some laden).map (received true)) = .ok none ∧
      inputOf? .payload .source ((some fault).map (received false)) = .ok none ∧
      (∃ payload, inputOf? .message .soapMessage ((some laden).map (received true)) =
        .ok (some payload) ∧ payload.payloadType = .soapMessage) ∧
      inputOf? .message .text ((some ((Envelope.new .soap11).setMtom true)).map (received false)) =
        .ok none := by
  intro laden fault
  have of {envelope : Envelope} (built : envelope.Reachable) :
      ∀ other, some envelope = some other → other.Reachable :=
    fun other same => Option.some.inj same ▸ built
  have builtLaden : laden.Reachable := .attach (.addHeader (.new .soap12) _) _ _
  obtain ⟨_, law⟩ := absent_input
  refine ⟨?_, ?_, ?_, ?_⟩
  · exact (law .payload .text true _ (of builtLaden)).1.2
      (.inr (.inr ⟨rfl, by decide, laden, rfl, fun _ => nofun⟩))
  · exact (law .payload .source false _ (of (.ofFault .soap11 _))).1.2
      (.inr (.inr ⟨rfl, by decide, fault, rfl, fun _ => nofun⟩))
  · have present : inputOf? .message .soapMessage ((some laden).map (received true)) ≠ .ok none :=
      nofun
    refine ((law .message .soapMessage true _ (of builtLaden)).2.1 present).resolve_right ?_
    rintro ⟨error, refused⟩
    cases refused
  · exact (law .message .text false _ (of (.setMtom (.new .soap11) true))).1.2
      (.inr (.inl ⟨rfl, _, rfl, rfl⟩))

end Dispatch

end SoapDispatch
