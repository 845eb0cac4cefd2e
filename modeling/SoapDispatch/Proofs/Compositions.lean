import SoapDispatch.Proofs.BinaryEcho

/-!
# Messages in the making

A message is made by a number of edits: data is encoded for it, its flag is set, content and headers
are put into it, data is attached by hand. The bodies that encoding gives stay outside of the
message until one of them is put in, and what they refer to is attached to the message meanwhile. As
nothing that is attached is taken away or changed by other edits, all these bodies can be read at
any time, those that refer to attachments whenever the message is optimised.
-/

namespace SoapDispatch.Codec

open SoapDispatch.Xml SoapDispatch.Soap

/-- A message in the making, with the supply of ids for what encoding attaches to it. -/
structure Composition where
  envelope : Envelope
  ids : IdSupply

/-- Something that is done with a message in the making. -/
inductive Edit where
  /-- A payload is encoded as data, whatever its type. -/
  | encode (payload : Payload)
  | setMtom (mtom : Bool)
  | setBody (body : Body)
  | setFault (fault : Fault)
  | addHeader (block : Element)
  | attach (contentId : String) (data : DataSource)

/-- Whether an edit does not attach anything under an id that the supply has yet to give. -/
def Edit.Foreign (ids : IdSupply) : Edit → Prop
  | attach contentId _ => ids.Spares contentId
  | _ => True

/-- So it is once the supply has given some more. -/
theorem Edit.Foreign.skip {ids : IdSupply} {edit : Edit} (foreign : edit.Foreign ids)
    (count : Nat) : edit.Foreign (ids.skip count) := by
  cases edit with
  | attach contentId data => exact IdSupply.Spares.skip foreign count
  | encode | setMtom | setBody | setFault | addHeader => trivial

namespace Composition

/-- Does one thing with a message. A payload that cannot be encoded leaves it alone. -/
def edit (composition : Composition) : Edit → Composition
  | .encode payload =>
    match Codec.encode .dataSource payload composition.envelope composition.ids with
    | .ok encoded => ⟨encoded.envelope, encoded.ids⟩
    | .error _ => composition
  | .setMtom mtom => { composition with envelope := composition.envelope.setMtom mtom }
  | .setBody body => { composition with envelope := composition.envelope.setBody body }
  | .setFault fault => { composition with envelope := composition.envelope.setFault fault }
  | .addHeader block => { composition with envelope := composition.envelope.addHeader block }
  | .attach contentId data =>
    { composition with envelope := composition.envelope.attach contentId data }

/-- Does one thing after the other. -/
def afterwards (composition : Composition) (edits : List Edit) : Composition :=
  edits.foldl edit composition

end Composition

/-! ## Encoding -/

/-- Only data is encoded as data. -/
theorem exists_data_of_encode {payload : Payload} {envelope : Envelope} {ids : IdSupply}
    {encoded : Encoded} (done : encode .dataSource payload envelope ids = .ok encoded) :
    ∃ data, payload = .data data ∧ encoded =
      ⟨.ofElement (encodeData data envelope ids).1, (encodeData data envelope ids).2.1,
        (encodeData data envelope ids).2.2⟩ := by
  obtain ⟨data, required, made⟩ := exists_of_bind_eq_ok done
  exact ⟨data, Payload.require_eq_ok required, (Except.ok.inj made).symm⟩

/-- And all data is. -/
theorem payloadType_of_encode_eq_error {payload : Payload} {envelope : Envelope} {ids : IdSupply}
    {error : DispatchError} (refused : encode .dataSource payload envelope ids = .error error) :
    payload.payloadType ≠ .dataSource := by
  cases payload with
  | data => exact nomatch refused
  | text | source | message => exact nofun

/-- A message that is not optimised refuses references. -/
theorem decodeData_reference_of_plain {envelope : Envelope} {contentType contentId : String}
    (plain : envelope.mtom = false) :
    decodeData (.ofElement (binaryElement contentType (includeElement contentId).toNode))
      envelope = .error .referenceWithoutMtom := by
  rw [decodeData_binaryElement, binaryBytes, child?_binaryElement]
  simp only [resolveInclude, plain]
  rfl

namespace Composition

/-! ## One edit -/

variable {composition : Composition}

section Encode

variable {payload : Payload}

theorem edit_encode_of_error {error : DispatchError}
    (refused : encode .dataSource payload composition.envelope composition.ids = .error error) :
    composition.edit (.encode payload) = composition := by
  simp only [edit, refused]

theorem edit_encode_of_ok {encoded : Encoded}
    (done : encode .dataSource payload composition.envelope composition.ids = .ok encoded) :
    composition.edit (.encode payload) = ⟨encoded.envelope, encoded.ids⟩ := by
  simp only [edit, done]

/-- A message that is not optimised is left alone, and what is encoded can be read anywhere. -/
theorem encode_of_plain {encoded : Encoded} (plain : composition.envelope.mtom = false)
    (done : encode .dataSource payload composition.envelope composition.ids = .ok encoded) :
    composition.edit (.encode payload) = composition ∧
      ∀ envelope, decode .dataSource encoded.body envelope = .ok payload := by
  rw [edit_encode_of_ok done]
  obtain ⟨data, rfl, rfl⟩ := exists_data_of_encode done
  rw [encodeData_of_plain data plain]
  refine ⟨rfl, fun envelope => ?_⟩
  rw [decode, decodeData_text]
  rfl

/-- An optimised message gains what is encoded as an attachment, and the body refers to it. -/
theorem encode_of_mtom {encoded : Encoded} (mtom : composition.envelope.mtom = true)
    (done : encode .dataSource payload composition.envelope composition.ids = .ok encoded) :
    ∃ data, payload = .data data ∧
      encoded.body = .ofElement
        (binaryElement data.contentType (includeElement composition.ids.next).toNode) ∧
      composition.edit (.encode payload) =
        ⟨composition.envelope.attach composition.ids.next data, composition.ids.rest⟩ := by
  rw [edit_encode_of_ok done]
  obtain ⟨data, rfl, rfl⟩ := exists_data_of_encode done
  rw [encodeData_of_mtom data mtom]
  exact ⟨data, rfl, rfl, rfl⟩

end Encode

/-- What an edit does to the attachments of a message and to the supply: it leaves them alone, it
attaches data by hand, or it attaches data under the next id of the supply. -/
inductive Stored (composition : Composition) (edit : Edit) (next : Composition) : Prop where
  | kept (ids : next.ids = composition.ids)
      (attachments : next.envelope.attachments = composition.envelope.attachments)
  | byHand {contentId : String} {data : DataSource} (is : edit = .attach contentId data)
      (ids : next.ids = composition.ids)
      (attachments : next.envelope.attachments =
        composition.envelope.attachments.insert contentId data)
  | drawn {data : DataSource} (ids : next.ids = composition.ids.rest)
      (attachments : next.envelope.attachments =
        composition.envelope.attachments.insert composition.ids.next data)

theorem stored_edit (composition : Composition) (edit : Edit) :
    composition.Stored edit (composition.edit edit) := by
  cases edit with
  | encode payload =>
    cases done : encode .dataSource payload composition.envelope composition.ids with
    | error cause => exact (edit_encode_of_error done).symm ▸ .kept rfl rfl
    | ok encoded =>
      cases mtom : composition.envelope.mtom with
      | true =>
        obtain ⟨data, _, _, next⟩ := encode_of_mtom mtom done
        exact next.symm ▸ .drawn rfl rfl
      | false => exact (encode_of_plain mtom done).1.symm ▸ .kept rfl rfl
  | attach contentId data => exact .byHand rfl rfl rfl
  | setMtom | setBody | setFault | addHeader => exact .kept rfl rfl

/-- An edit draws one id at most. -/
theorem exists_ids_edit (composition : Composition) (edit : Edit) :
    ∃ count, (composition.edit edit).ids = composition.ids.skip count := by
  cases composition.stored_edit edit with
  | kept ids | byHand _ ids => exact ⟨0, ids⟩
  | drawn ids => exact ⟨1, ids⟩

/-- What is attached under an id that is not yet to be given stays, unless something is attached
under it by hand. -/
theorem attachment?_edit {edit : Edit} {contentId : String}
    (spared : composition.ids.Spares contentId) (untouched : ∀ data, edit ≠ .attach contentId data) :
    (composition.edit edit).envelope.attachment? contentId =
      composition.envelope.attachment? contentId := by
  rw [Envelope.attachment?, Envelope.attachment?]
  cases composition.stored_edit edit with
  | kept _ attachments => rw [attachments]
  | @byHand key data is _ attachments =>
    have different : contentId ≠ key := by
      rintro rfl
      exact untouched data is
    rw [attachments, Dictionary.get?_insert_of_ne different]
  | drawn _ attachments =>
    rw [attachments]
    exact Dictionary.get?_insert_of_ne (spared _ (Nat.le_refl _)) _ _

/-- The ids that are still to be given stay unused. -/
theorem freshFor_edit {edit : Edit}
    (fresh : composition.ids.FreshFor composition.envelope.contentIds)
    (foreign : edit.Foreign composition.ids) :
    (composition.edit edit).ids.FreshFor (composition.edit edit).envelope.contentIds := by
  rw [Envelope.contentIds] at fresh ⊢
  cases composition.stored_edit edit with
  | kept ids attachments => rwa [ids, attachments]
  | byHand is ids attachments =>
    rw [ids, attachments]
    rw [is] at foreign
    refine ⟨fresh.1, fun number later known => ?_⟩
    rcases Dictionary.eq_or_mem_of_mem_keys_insert known with new | old
    · exact foreign number later new.symm
    · exact fresh.2 number later old
  | @drawn data ids attachments =>
    rw [ids, attachments]
    exact fresh.attach data

/-! ## Any number of edits -/

/-- Edits draw ids one after the other. -/
theorem exists_ids_afterwards (composition : Composition) (edits : List Edit) :
    ∃ count, (composition.afterwards edits).ids = composition.ids.skip count := by
  induction edits generalizing composition with
  | nil => exact ⟨0, rfl⟩
  | cons edit rest inductionHypothesis =>
    obtain ⟨first, own⟩ := composition.exists_ids_edit edit
    obtain ⟨others, later⟩ := inductionHypothesis (composition.edit edit)
    rw [own, IdSupply.skip_skip] at later
    exact ⟨_, later⟩

/-- What is attached under an id that is not yet to be given stays until something is attached under
it by hand. -/
theorem attachment?_afterwards {edits : List Edit} {contentId : String}
    (spared : composition.ids.Spares contentId)
    (untouched : ∀ data, .attach contentId data ∉ edits) :
    (composition.afterwards edits).envelope.attachment? contentId =
      composition.envelope.attachment? contentId := by
  induction edits generalizing composition with
  | nil => rfl
  | cons edit rest inductionHypothesis =>
    obtain ⟨count, own⟩ := composition.exists_ids_edit edit
    have stays := inductionHypothesis (own ▸ spared.skip count) fun data member =>
      untouched data (List.mem_cons_of_mem _ member)
    exact stays.trans (attachment?_edit spared fun data same =>
      untouched data (same ▸ List.mem_cons_self))

/-- The ids that are still to be given stay unused. -/
theorem freshFor_afterwards {edits : List Edit}
    (fresh : composition.ids.FreshFor composition.envelope.contentIds)
    (foreign : ∀ edit ∈ edits, edit.Foreign composition.ids) :
    (composition.afterwards edits).ids.FreshFor
      (composition.afterwards edits).envelope.contentIds := by
  induction edits generalizing composition with
  | nil => exact fresh
  | cons edit rest inductionHypothesis =>
    obtain ⟨own, others⟩ := List.forall_mem_cons.1 foreign
    obtain ⟨count, drawn⟩ := composition.exists_ids_edit edit
    refine inductionHypothesis (freshFor_edit fresh own) fun later member => ?_
    rw [drawn]
    exact (others later member).skip count

/-- What encoding has attached stays, and is read from the body that refers to it whenever the
message is optimised. -/
theorem decode_afterwards {contentId : String} {data : DataSource} {later : List Edit}
    (attached : composition.envelope.attachment? contentId = some data)
    (spared : composition.ids.Spares contentId)
    (untouched : ∀ data, .attach contentId data ∉ later) :
    decode .dataSource
        (.ofElement (binaryElement data.contentType (includeElement contentId).toNode))
        (composition.afterwards later).envelope =
      if (composition.afterwards later).envelope.mtom then .ok (.data data)
      else .error (.malformedPayload .referenceWithoutMtom) := by
  have stays := (attachment?_afterwards spared untouched).trans attached
  cases mtom : (composition.afterwards later).envelope.mtom with
  | true =>
    rw [decode, decodeData_reference data mtom stays]
    rfl
  | false =>
    rw [decode, decodeData_reference_of_plain mtom]
    rfl

/-- Whatever is done with a message, a body that data has been encoded as can be read: always if the
message was not optimised then, and whenever it is optimised if it was. Encoding changes nothing of
the message but that it attaches the data to an optimised one; only what is no data is refused, and
changes nothing at all. Nothing that is attached by hand is ever changed. -/
theorem encoded_stays_readable (start : Composition) (earlier : List Edit) (payload : Payload)
    (fresh : start.ids.FreshFor start.envelope.contentIds)
    (foreign : ∀ edit ∈ earlier, edit.Foreign start.ids) :
    let now := start.afterwards earlier
    let next := now.edit (.encode payload)
    (∀ error, encode .dataSource payload now.envelope now.ids = .error error →
      payload.payloadType ≠ .dataSource ∧ next = now) ∧
    (∀ encoded, encode .dataSource payload now.envelope now.ids = .ok encoded →
      (now.envelope.mtom = false → next = now ∧
        ∀ later, decode .dataSource encoded.body (next.afterwards later).envelope =
          .ok payload) ∧
      (now.envelope.mtom = true →
        next.envelope = { now.envelope with attachments := next.envelope.attachments } ∧
        next.envelope.attachments.length = now.envelope.attachments.length + 1 ∧
        (∀ contentId data, now.envelope.attachment? contentId = some data →
          next.envelope.attachment? contentId = some data) ∧
        ∀ later, (∀ edit ∈ later, edit.Foreign start.ids) →
          decode .dataSource encoded.body (next.afterwards later).envelope =
            if (next.afterwards later).envelope.mtom then .ok payload
            else .error (.malformedPayload .referenceWithoutMtom))) ∧
    ∀ contentId, start.ids.Spares contentId →
      ((∀ data, .attach contentId data ∉ earlier) →
        now.envelope.attachment? contentId = start.envelope.attachment? contentId) ∧
      ∀ data later, (∀ other, .attach contentId other ∉ later) →
        ((now.edit (.attach contentId data)).afterwards later).envelope.attachment? contentId =
          some data := by
  intro now next
  have unused : now.ids.FreshFor now.envelope.contentIds := freshFor_afterwards fresh foreign
  obtain ⟨count, drawn⟩ := start.exists_ids_afterwards earlier
  refine ⟨fun error refused => ?refused, ?encoded, ?byHand⟩
  case refused =>
    exact ⟨payloadType_of_encode_eq_error refused, edit_encode_of_error refused⟩
  case encoded =>
    intro encoded done
    refine ⟨?plain, ?optimised⟩
    case plain =>
      intro plain
      obtain ⟨same, readable⟩ := encode_of_plain plain done
      exact ⟨same, fun later => readable _⟩
    case optimised =>
      intro mtom
      obtain ⟨data, rfl, body, made⟩ := encode_of_mtom mtom done
      have made : next = ⟨now.envelope.attach now.ids.next data, now.ids.rest⟩ := made
      rw [made]
      -- What encoding attaches is all that is attached from a list of one piece of data.
      refine ⟨rfl, now.envelope.length_attachAll unused [data],
        fun _ _ => Envelope.attachment?_attachAll_of_fresh unused [data], fun later others => ?_⟩
      rw [body]
      refine decode_afterwards (Dictionary.get?_insert_self _ _ _)
        (IdSupply.spares_next unused.1) fun other member => ?_
      have own : now.ids.Spares now.ids.next := drawn ▸ (others _ member).skip count
      exact own now.ids.drawn (Nat.le_refl _) rfl
  case byHand =>
    intro contentId spared
    have still : now.ids.Spares contentId := drawn ▸ spared.skip count
    refine ⟨fun untouched => attachment?_afterwards spared untouched, fun data later untouched => ?_⟩
    have stays :=
      @attachment?_afterwards (now.edit (.attach contentId data)) later contentId still untouched
    exact stays.trans (Dictionary.get?_insert_self _ _ _)

/-- Data without bytes is encoded for an optimised message, behind other data and behind a payload
that is refused. It is read when the flag has been lowered and raised again, and what is attached by
hand has been replaced in between; and it is refused once the flag is lowered for good. -/
theorem encoded_stays_readable_flipped :
    let start : Composition := ⟨.new .soap11, unaryIds⟩
    let earlier : List Edit := [.encode (.data ⟨"a", [1]⟩), .setMtom true,
      .attach "x" ⟨"b", [2]⟩, .encode (.data ⟨"c", [3]⟩), .encode (.text "t")]
    let later : List Edit := [.setMtom false, .attach "x" ⟨"b", [4]⟩, .setBody (.ofText "t"),
      .setMtom true, .encode (.data ⟨"c", [5]⟩)]
    let now := start.afterwards earlier
    let next := now.edit (.encode (.data ⟨"d", []⟩))
    ∃ encoded, encode .dataSource (.data ⟨"d", []⟩) now.envelope now.ids = .ok encoded ∧
      next.envelope.attachments.length = now.envelope.attachments.length + 1 ∧
      decode .dataSource encoded.body (next.afterwards later).envelope = .ok (.data ⟨"d", []⟩) ∧
      decode .dataSource encoded.body (next.afterwards (later ++ [.setMtom false])).envelope =
        .error (.malformedPayload .referenceWithoutMtom) := by
  intro start earlier later now next
  have fresh : start.ids.FreshFor start.envelope.contentIds :=
    ⟨injective_unaryIds, fun _ _ => List.not_mem_nil⟩
  have byHand : start.ids.Spares "x" := IdSupply.spares_of_length_lt (by decide)
  have foreign : ∀ edit ∈ earlier, edit.Foreign start.ids := by
    simp [earlier, Edit.Foreign, byHand]
  have foreignLater : ∀ edit ∈ later ++ [.setMtom false], edit.Foreign start.ids := by
    simp [later, Edit.Foreign, byHand]
  obtain ⟨encoded, done⟩ : ∃ encoded,
      encode .dataSource (.data ⟨"d", []⟩) now.envelope now.ids = .ok encoded := ⟨_, rfl⟩
  obtain ⟨_, readable, _⟩ := encoded_stays_readable start earlier (.data ⟨"d", []⟩) fresh foreign
  obtain ⟨_, count, _, read⟩ := (readable encoded done).2 rfl
  have raised : (next.afterwards later).envelope.mtom = true := rfl
  have lowered : (next.afterwards (later ++ [.setMtom false])).envelope.mtom = false := rfl
  refine ⟨encoded, done, count, ?_, ?_⟩
  · exact (read later fun edit member => foreignLater edit (List.mem_append_left _ member)).trans
      (if_pos raised)
  · exact (read _ foreignLater).trans (if_neg (lowered ▸ Bool.false_ne_true))

end Composition

end SoapDispatch.Codec
