import SoapDispatch.Proofs.Inlining

/-!
# Data that becomes attachments

What becomes of a forest when the data of its outermost `Binary` elements is encoded anew for an
optimised message: each of the elements gives way to one that refers to an attachment, and the
message gains the attachments, in document order and under the ids that the supply has next.
-/

namespace SoapDispatch

open SoapDispatch.Xml SoapDispatch.Soap

/-! ## Attaching one thing after the other -/

namespace Soap

/-- The supply without its next ids. -/
def IdSupply.skip (supply : IdSupply) (count : Nat) : IdSupply :=
  { supply with drawn := supply.drawn + count }

/-- Whether an id is none of those that a supply has yet to give. -/
def IdSupply.Spares (supply : IdSupply) (contentId : String) : Prop :=
  ∀ number ≥ supply.drawn, contentId ≠ supply.id number

/-- The content ids of the attachments. -/
def Envelope.contentIds (envelope : Envelope) : List String :=
  envelope.attachments.map Prod.fst

/-- The message with data attached under the next ids of a supply. -/
def Envelope.attachAll (envelope : Envelope) (supply : IdSupply) : List DataSource → Envelope
  | [] => envelope
  | data :: rest => (envelope.attach supply.next data).attachAll supply.rest rest

variable {supply : IdSupply} {envelope : Envelope}

/-- Drawing one id and then some more. -/
theorem IdSupply.skip_rest (supply : IdSupply) (count : Nat) :
    supply.rest.skip count = supply.skip (count + 1) := by
  simp only [rest, skip, Nat.add_assoc, Nat.add_comm 1]

/-- Drawing some ids and then some more. -/
theorem IdSupply.skip_skip (supply : IdSupply) (first second : Nat) :
    (supply.skip first).skip second = supply.skip (first + second) := by
  simp only [skip, Nat.add_assoc]

/-- Ids of different numbers differ if their unique parts do. -/
theorem IdSupply.id_ne (distinct : Function.Injective supply.unique) {first second : Nat}
    (different : first ≠ second) : supply.id first ≠ supply.id second := by
  intro same
  exact different (distinct ((String.append_left_inj _).1 same))

/-- An id that is spared is spared by what is left of the supply. -/
theorem IdSupply.Spares.skip {contentId : String} (spared : supply.Spares contentId)
    (count : Nat) : (supply.skip count).Spares contentId :=
  fun number least => spared number (Nat.le_trans (Nat.le_add_right _ _) least)

/-- An id that has been given is not given again. -/
theorem IdSupply.spares_next (distinct : Function.Injective supply.unique) :
    supply.rest.Spares supply.next :=
  fun _ beyond => IdSupply.id_ne distinct (Nat.ne_of_lt beyond)

/-- An id that is shorter than what all ids of supplies end with is none of them. -/
theorem IdSupply.spares_of_length_lt {contentId : String} (short : contentId.length < 8) :
    supply.Spares contentId := by
  rintro number _ rfl
  rw [id, String.length_append] at short
  exact absurd short (Nat.not_lt.2 (Nat.le_add_left 8 _))

/-- A supply is fresh still for a message once its first id has been used. -/
theorem IdSupply.FreshFor.attach (fresh : supply.FreshFor envelope.contentIds)
    (data : DataSource) : supply.rest.FreshFor (envelope.attach supply.next data).contentIds := by
  refine ⟨fresh.1, fun number later known => fresh.rest.2 number later ?_⟩
  rcases Dictionary.eq_or_mem_of_mem_keys_insert known with new | old
  · exact List.mem_cons.2 (.inl new)
  · exact List.mem_cons_of_mem _ old

namespace Envelope

/-- What is attached is attached under one of the content ids. -/
theorem mem_contentIds_of_attachment? {contentId : String} {data : DataSource}
    (found : envelope.attachment? contentId = some data) : contentId ∈ envelope.contentIds := by
  rw [contentIds, Dictionary.mem_keys_iff, ← attachment?, found]
  rfl

/-- Only the attachments change. -/
theorem exists_attachAll_eq (envelope : Envelope) (supply : IdSupply) (carried : List DataSource) :
    ∃ attachments, envelope.attachAll supply carried = { envelope with attachments } := by
  induction carried generalizing envelope supply with
  | nil => exact ⟨envelope.attachments, rfl⟩
  | cons data rest inductionHypothesis =>
    obtain ⟨attachments, same⟩ :=
      inductionHypothesis (envelope.attach supply.next data) supply.rest
    exact ⟨attachments, same⟩

/-- Data is attached one list behind the other. -/
theorem attachAll_append (envelope : Envelope) (supply : IdSupply)
    (own others : List DataSource) : envelope.attachAll supply (own ++ others) =
      (envelope.attachAll supply own).attachAll (supply.skip own.length) others := by
  induction own generalizing envelope supply with
  | nil => rfl
  | cons data rest inductionHypothesis =>
    rw [List.cons_append, attachAll, inductionHypothesis, IdSupply.skip_rest, attachAll,
      List.length_cons]

/-- What is attached under another id stays. -/
theorem attachment?_attachAll (envelope : Envelope) (carried : List DataSource) {key : String}
    (spared : supply.Spares key) :
    (envelope.attachAll supply carried).attachment? key = envelope.attachment? key := by
  induction carried generalizing envelope supply with
  | nil => rfl
  | cons data rest inductionHypothesis =>
    have still : supply.rest.Spares key := spared.skip 1
    rw [attachAll, inductionHypothesis _ still]
    exact Dictionary.get?_insert_of_ne (spared supply.drawn (Nat.le_refl _)) _ _

/-- What is attached already stays, as ids that are not taken are used. -/
theorem attachment?_attachAll_of_fresh (fresh : supply.FreshFor envelope.contentIds)
    (carried : List DataSource) {contentId : String} {data : DataSource}
    (found : envelope.attachment? contentId = some data) :
    (envelope.attachAll supply carried).attachment? contentId = some data := by
  have spared : supply.Spares contentId := by
    rintro number later rfl
    exact fresh.2 number later (mem_contentIds_of_attachment? found)
  rw [envelope.attachment?_attachAll carried spared, found]

/-- Each piece of data is found under the id of its number. -/
theorem attachment?_attachAll_of_mem (distinct : Function.Injective supply.unique)
    {carried : List DataSource} {place : DataSource × Nat}
    (member : place ∈ carried.zipIdx supply.drawn) :
    (envelope.attachAll supply carried).attachment? (supply.id place.2) = some place.1 := by
  induction carried generalizing envelope supply with
  | nil => exact absurd member List.not_mem_nil
  | cons data rest inductionHypothesis =>
    rw [attachAll]
    rcases List.mem_cons.1 (List.zipIdx_cons ▸ member) with rfl | later
    · have stays := (envelope.attach supply.next data).attachment?_attachAll rest
        (IdSupply.spares_next distinct)
      exact stays.trans (Dictionary.get?_insert_self _ _ _)
    · exact @inductionHypothesis supply.rest _ distinct later

/-- Every piece of data that is attached is one attachment more. -/
theorem length_attachAll (fresh : supply.FreshFor envelope.contentIds) (carried : List DataSource) :
    (envelope.attachAll supply carried).attachments.length =
      envelope.attachments.length + carried.length := by
  induction carried generalizing envelope supply with
  | nil => rfl
  | cons data rest inductionHypothesis =>
    have added : (envelope.attach supply.next data).attachments.length =
        envelope.attachments.length + 1 :=
      Dictionary.length_insert_of_notMem fresh.next_not_mem data
    rw [attachAll, inductionHypothesis (fresh.attach data), added, List.length_cons]
    omega

end Envelope

end Soap

namespace Codec

/-- The elements that refer to data attached under the next ids of a supply. -/
def referring (supply : IdSupply) : List DataSource → List Element
  | [] => []
  | data :: rest =>
    binaryElement data.contentType (includeElement supply.next).toNode ::
      referring supply.rest rest

/-- Attached data is read from the elements that refer to it. -/
theorem decodeData_referring {supply : IdSupply} {envelope final : Envelope}
    {carried : List DataSource} (fresh : supply.FreshFor envelope.contentIds) (mtom : final.mtom = true)
    (attached : final.attachments = (envelope.attachAll supply carried).attachments) :
    (referring supply carried).map (fun binary => decodeData (.ofElement binary) final) =
      carried.map .ok := by
  induction carried generalizing envelope supply with
  | nil => rfl
  | cons data rest inductionHypothesis =>
    have first : (data, supply.drawn) ∈ (data :: rest).zipIdx supply.drawn := List.mem_cons_self
    have found : final.attachment? supply.next = some data := by
      rw [Envelope.attachment?, attached]
      exact Envelope.attachment?_attachAll_of_mem fresh.1 first
    rw [referring, List.map_cons, decodeData_reference data mtom found,
      inductionHypothesis (fresh.attach data) attached, List.map_cons]

/-! ## Encoding anew -/

/-- Only elements change. -/
theorem externalizeNodes_other {envelope : Envelope} {ids : IdSupply} {node : Node}
    (none : node.asElement? = none) (rest : List Node) :
    externalizeNodes envelope ids (node :: rest) =
      (externalizeNodes envelope ids rest).map fun result => (node :: result.1, result.2) := by
  cases node with
  | element tag children => exact nomatch none
  | text | cdata | comment | instruction => rfl

/-- Encoding data changes nothing of the message but its attachments. -/
theorem exists_encodeData_eq (data : DataSource) (envelope : Envelope) (ids : IdSupply) :
    ∃ attachments, (encodeData data envelope ids).2.1 = { envelope with attachments } := by
  unfold encodeData
  split
  · exact ⟨_, rfl⟩
  · exact ⟨envelope.attachments, rfl⟩

/-- Encoding a forest anew changes nothing of the message but its attachments. -/
theorem exists_externalizeNodes_eq {envelope message : Envelope} {ids left : IdSupply}
    {nodes replaced : List Node}
    (done : externalizeNodes envelope ids nodes = .ok (replaced, message, left)) :
    ∃ attachments, message = { envelope with attachments } := by
  induction nodes using forestInduction generalizing envelope message ids left replaced with
  | nil =>
    cases done
    exact ⟨_, rfl⟩
  | element tag children rest inside behind =>
    rw [externalizeNodes] at done
    obtain ⟨⟨first, between, supply⟩, head, tail⟩ := exists_of_bind_eq_ok done
    obtain ⟨⟨others, last, remaining⟩, later, made⟩ := exists_of_bind_eq_ok tail
    cases made
    have kept : ∃ attachments, between = { envelope with attachments } := by
      rw [externalizeNode] at head
      simp only [] at head
      split at head
      · split at head
        · cases head
          exact ⟨_, rfl⟩
        · obtain ⟨data, _, made⟩ := exists_of_bind_eq_ok head
          obtain ⟨attachments, same⟩ := exists_encodeData_eq data envelope ids
          cases made
          exact ⟨attachments, same⟩
      · obtain ⟨⟨nodes, changed, drawn⟩, inner, made⟩ := exists_of_bind_eq_ok head
        cases made
        exact inside inner
    obtain ⟨added, rfl⟩ := kept
    obtain ⟨more, rfl⟩ := behind later
    exact ⟨more, rfl⟩
  | other node rest none behind =>
    rw [externalizeNodes_other none] at done
    obtain ⟨⟨others, last, remaining⟩, later, made⟩ := exists_of_map_eq_ok done
    cases made
    exact behind later

/-- How the data of a forest is encoded anew: it is all attached, and referred to in its places. -/
structure Attached (envelope : Envelope) (ids : IdSupply) (nodes replaced : List Node)
    (carried : List DataSource) : Prop where
  done : externalizeNodes envelope ids nodes =
    .ok (replaced, envelope.attachAll ids carried, ids.skip carried.length)
  places : outermost isBinaryName replaced = referring ids carried

/-- What a `Binary` element without a reference holds does not depend on the message. -/
theorem binaryData_of_unreferenced {binary : Element} (envelope other : Envelope)
    (unreferenced : binary.child? "Include" = none) :
    binaryData binary envelope = binaryData binary other := by
  rw [binaryData, binaryBytes_of_unreferenced envelope unreferenced, binaryData,
    binaryBytes_of_unreferenced other unreferenced]

/-- So it is for several of them. -/
theorem mapM_binaryData_eq {binaries : List Element} (envelope other : Envelope)
    (unreferenced : ∀ binary ∈ binaries, binary.child? "Include" = none) :
    binaries.mapM (binaryData · envelope) = binaries.mapM (binaryData · other) :=
  mapM_congr fun binary member =>
    binaryData_of_unreferenced envelope other (unreferenced binary member)

/-- The content type that an element names, or that of data that names none. -/
def contentTypeOf (binary : Element) : String :=
  (binary.tag.attributes.get? "contentType").getD defaultContentType

/-- The element of the same content type that refers to the attachment of a number. -/
def referringTo (ids : IdSupply) (number : Nat) (binary : Element) : Element :=
  binaryElement (contentTypeOf binary) (includeElement (ids.id number)).toNode

/-- An element that carries data carries some bytes under its content type. -/
theorem contentType_of_binaryData {binary : Element} {envelope : Envelope} {data : DataSource}
    (held : binaryData binary envelope = .ok data) : data.contentType = contentTypeOf binary := by
  obtain ⟨bytes, _, made⟩ := exists_of_bind_eq_ok held
  exact (congrArg DataSource.contentType (Except.ok.inj made)).symm

/-- To encode a forest anew is to read the data of its outermost `Binary` elements one after the
other, to attach it, and to put references in their places. -/
theorem externalizeNodes_eq {envelope : Envelope} (ids : IdSupply) {nodes : List Node}
    (mtom : envelope.mtom = true)
    (unreferenced : ∀ binary ∈ outermost isBinaryName nodes, binary.child? "Include" = none) :
    externalizeNodes envelope ids nodes =
      ((outermost isBinaryName nodes).mapM (binaryData · envelope)).map fun carried =>
        (replaceOutermost isBinaryName (fun number binary => (referringTo ids number binary).toNode)
          ids.drawn nodes, envelope.attachAll ids carried, ids.skip carried.length) := by
  induction nodes using forestInduction generalizing envelope ids with
  | nil => rfl
  | element tag children rest inside behind =>
    rw [outermost_element, List.forall_mem_append] at unreferenced
    rw [externalizeNodes, externalizeNode, outermost_element, List.mapM_append]
    cases named : isBinaryName tag.name with
    | true =>
      rw [named] at unreferenced
      have own : (Element.mk tag children).child? "Include" = none :=
        unreferenced.1 _ (List.mem_singleton_self _)
      rw [replaceOutermost_of_kind named]
      simp only [if_true, own, List.mapM_cons, List.mapM_nil]
      cases held : binaryData ⟨tag, children⟩ envelope with
      | error cause => rfl
      | ok data =>
        -- The forest behind is encoded for a message that has one attachment more.
        have later := @behind (envelope.attach ids.next data) ids.rest mtom
          unreferenced.2
        rw [mapM_binaryData_eq _ envelope unreferenced.2] at later
        simp only [bind, Except.bind, encodeData, mtom, if_true, later]
        cases (outermost isBinaryName rest).mapM (binaryData · envelope) with
        | error cause => rfl
        | ok carried =>
          rw [contentType_of_binaryData held]
          simp only [Except.map, IdSupply.skip_rest]
          rfl
    | false =>
      rw [named] at unreferenced
      rw [replaceOutermost_of_not_kind named]
      simp only [Bool.false_eq_true, if_false, inside ids mtom unreferenced.1]
      cases first : (outermost isBinaryName children).mapM (binaryData · envelope) with
      | error cause => rfl
      | ok own =>
        have count : own.length = (outermost isBinaryName children).length := by
          simpa using (congrArg List.length (mapM_eq_ok_iff.1 first)).symm
        obtain ⟨attachments, same⟩ := envelope.exists_attachAll_eq ids own
        have later := @behind (envelope.attachAll ids own) (ids.skip own.length)
          (same ▸ mtom) unreferenced.2
        rw [mapM_binaryData_eq _ envelope unreferenced.2] at later
        simp only [bind, Except.bind, Except.map, later]
        cases (outermost isBinaryName rest).mapM (binaryData · envelope) with
        | error cause => rfl
        | ok others =>
          simp only [pure, Except.pure, Envelope.attachAll_append, IdSupply.skip_skip,
            List.length_append, ← count]
          rfl
  | other node rest none behind =>
    rw [outermost_other none] at unreferenced
    rw [externalizeNodes_other none, behind ids mtom unreferenced, outermost_other none,
      replaceOutermost_other none]
    cases (outermost isBinaryName rest).mapM (binaryData · envelope) <;> rfl

/-- The elements that refer to the data of some others are of the content types of these. -/
theorem referring_eq {envelope : Envelope} {ids : IdSupply} {binaries : List Element}
    {carried : List DataSource}
    (held : binaries.map (binaryData · envelope) = carried.map .ok) :
    (binaries.zipIdx ids.drawn).map (fun place => referringTo ids place.2 place.1) =
      referring ids carried := by
  induction binaries generalizing ids carried with
  | nil =>
    obtain rfl : carried = [] := List.map_eq_nil_iff.1 held.symm
    rfl
  | cons binary rest inductionHypothesis =>
    obtain ⟨data, others, rfl, own, later⟩ := List.map_eq_cons_iff.1 held.symm
    have behind := @inductionHypothesis ids.rest others later.symm
    rw [referring, ← behind, contentType_of_binaryData own.symm]
    rfl

/-- The data of a forest becomes attachments of an optimised message if all its outermost `Binary`
elements hold data within. -/
theorem exists_attached {envelope : Envelope} {ids : IdSupply} {nodes : List Node}
    {carried : List DataSource} (mtom : envelope.mtom = true)
    (unreferenced : ∀ binary ∈ outermost isBinaryName nodes, binary.child? "Include" = none)
    (held : (outermost isBinaryName nodes).map (binaryData · envelope) = carried.map .ok) :
    ∃ replaced, Attached envelope ids nodes replaced carried := by
  refine ⟨replaceOutermost isBinaryName (fun number binary =>
    (referringTo ids number binary).toNode) ids.drawn nodes, ?_, ?_⟩
  · rw [externalizeNodes_eq ids mtom unreferenced, mapM_eq_ok_iff.2 held]
    rfl
  · exact (outermost_replaceOutermost (referringTo ids)
      (fun _ _ => isBinaryName_binaryElement _ _) _).trans (referring_eq held)

end Codec

end SoapDispatch
