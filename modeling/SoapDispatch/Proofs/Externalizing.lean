import SoapDispatch.Proofs.MixedContent

/-!
# Data attached and put back

To attach the data of a document and to put back what the references in it stand for undo each
other. A document that holds all its data itself loses it to the attachments of an optimised
message, one for each outermost `Binary` element and under the ids that the supply has next; put
back, the data stands in its own places again, in the elements that a message which is not optimised
would carry it in.
-/

namespace SoapDispatch.Codec

open SoapDispatch.Xml SoapDispatch.Soap

/-! ## Documents that hold their data -/

section Within

variable {nodes : List Node}

/-- Where there are no references, no `Binary` element has one. -/
theorem child?_eq_none_of_mem_outermost {binary : Element}
    (free : ∀ element ∈ elementsWithin nodes, isIncludeName element.tag.name = false)
    (member : binary ∈ outermost isBinaryName nodes) : binary.child? "Include" = none :=
  child?_eq_none_of_free (free_of_mem_outermost (outermost_eq_nil_iff.2 free) member)

/-- An element without a reference carries no data exactly when its visible characters are not the
base64 of any bytes. -/
theorem binaryData_eq_error_iff {binary : Element} {envelope : Envelope} {cause : Malformation}
    (unreferenced : binary.child? "Include" = none) :
    binaryData binary envelope = .error cause ↔ cause = .invalidBase64 ∧
      ∀ bytes, Text.removeBlanks (charactersOf binary.children) ≠ Base64.encode bytes := by
  simp only [ne_eq, ← decode?_toList_eq_some_iff]
  rw [binaryData, binaryBytes_of_unreferenced envelope unreferenced]
  cases Base64.decode? (Text.removeBlanks (charactersOf binary.children)).toList with
  | none => simp [bind, Except.bind, eq_comm]
  | some bytes => simp [bind, Except.bind]

/-- Where there are no references, data cannot be attached exactly when some outermost `Binary`
element does not hold any. -/
theorem externalizeNodes_eq_error_iff {envelope : Envelope} {ids : IdSupply} {error : DispatchError}
    (mtom : envelope.mtom = true)
    (free : ∀ element ∈ elementsWithin nodes, isIncludeName element.tag.name = false) :
    orMalformed (externalizeNodes envelope ids nodes) = .error error ↔
      error = .malformedPayload .invalidBase64 ∧ ∃ binary ∈ outermost isBinaryName nodes,
        ∀ bytes, Text.removeBlanks (charactersOf binary.children) ≠ Base64.encode bytes := by
  rw [externalizeNodes_eq ids mtom fun binary => child?_eq_none_of_mem_outermost free]
  cases all : (outermost isBinaryName nodes).mapM (binaryData · envelope) with
  | ok carried =>
    constructor
    · intro refused
      cases refused
    · rintro ⟨_, binary, member, invalid⟩
      have held := eq_ok_of_mapM ⟨defaultContentType, []⟩ all binary member
      have refused : binaryData binary envelope = .error .invalidBase64 :=
        (binaryData_eq_error_iff (child?_eq_none_of_mem_outermost free member)).2 ⟨rfl, invalid⟩
      cases held.symm.trans refused
  | error cause =>
    obtain ⟨before, binary, after, split, _, refused⟩ := mapM_eq_error_iff.1 all
    have member : binary ∈ outermost isBinaryName nodes :=
      split ▸ List.mem_append_right _ List.mem_cons_self
    obtain ⟨rfl, invalid⟩ :=
      (binaryData_eq_error_iff (child?_eq_none_of_mem_outermost free member)).1 refused
    constructor
    · intro made
      cases made
      exact ⟨rfl, binary, member, invalid⟩
    · rintro ⟨rfl, _⟩
      rfl

end Within

/-! ## Documents that refer to their data -/

/-- Where each outermost `Binary` element gives way to one that can be inlined, and there are no
references elsewhere, the forest can be inlined. -/
theorem inlineNodes_replaceOutermost {message : Envelope} {nodes : List Node}
    {replacement : Nat → Element → Node} {inlined : Element → Node} {number : Nat}
    (free : outermost isIncludeName nodes = [])
    (each : ∀ place ∈ (outermost isBinaryName nodes).zipIdx number,
      inlineNode message (replacement place.2 place.1) = .ok (inlined place.1)) :
    inlineNodes message (replaceOutermost isBinaryName replacement number nodes) =
      .ok (replaceEach isBinaryName inlined nodes) := by
  induction nodes using forestInduction generalizing number with
  | nil => rfl
  | element tag children rest inside behind =>
    obtain ⟨other, within, later⟩ := outermost_element_eq_nil_iff.1 free
    rw [outermost_element, List.zipIdx_append, List.forall_mem_append] at each
    cases named : isBinaryName tag.name with
    | true =>
      rw [named, if_pos rfl] at each
      have own := each.1 _ List.mem_cons_self
      rw [replaceOutermost_of_kind named, replaceEach_of_kind named, inlineNodes, own,
        @behind (number + 1) later each.2]
      rfl
    | false =>
      rw [named, if_neg Bool.false_ne_true] at each
      rw [replaceOutermost_of_not_kind named, replaceEach_of_not_kind named, inlineNodes_element,
        other, inside within each.1, behind later each.2]
      rfl
  | other node rest none behind =>
    rw [outermost_other none] at free each
    rw [replaceOutermost_other none, replaceEach_other none, inlineNodes_other message none,
      behind free each]
    rfl

/-- An element that refers to attached data is inlined to the element that carries the data in a
message that is not optimised. -/
theorem inlineNode_reference {message plain : Envelope} {contentId : String} {data : DataSource}
    (mtom : message.mtom = true) (attached : message.attachment? contentId = some data)
    (notOptimised : plain.mtom = false) (supply : IdSupply) :
    inlineNode message
        (binaryElement data.contentType (includeElement contentId).toNode).toNode =
      .ok (encodeData data plain supply).1.toNode := by
  have other := not_isIncludeName_of_isBinaryName
    (isBinaryName_binaryElement data.contentType (includeElement contentId).toNode)
  have refers : isIncludeName (includeElement contentId).tag.name = true := by
    have named : isIncludeName "xop:Include" = true := by decide
    exact named
  have inlined : inlineNodes message [(includeElement contentId).toNode] =
      .ok [.text (Base64.encode data.bytes)] := by
    rw [Element.toNode, inlineNodes_element, if_pos refers,
      resolveInclude_includeElement data mtom attached]
    rfl
  have children : (binaryElement data.contentType (includeElement contentId).toNode).children =
      [(includeElement contentId).toNode] := rfl
  rw [Element.toNode, inlineNode, other, encodeData_of_plain data notOptimised, children, inlined]
  rfl

/-- How the data of a document is attached to a message and put back. -/
structure Externalized (envelope message : Envelope) (ids : IdSupply) (nodes replaced : List Node)
    (value : Element → DataSource) : Prop where
  /-- The value of each outermost `Binary` element. -/
  before : ∀ binary ∈ outermost isBinaryName nodes,
    decode .dataSource (.ofElement binary) envelope = .ok (.data (value binary))
  /-- Each of them gives way to one of the same content type, with a reference in it. -/
  places : replaced = replaceOutermost isBinaryName
    (fun number binary => (binaryElement (contentTypeOf binary)
      (includeElement (ids.id number)).toNode).toNode) ids.drawn nodes
  /-- Only the attachments of the message change. -/
  others : message = { envelope with attachments := message.attachments }
  /-- There is one more for each element. -/
  count : message.attachments.length =
    envelope.attachments.length + (outermost isBinaryName nodes).length
  /-- It is the value of that element. -/
  gained : ∀ place ∈ (outermost isBinaryName nodes).zipIdx ids.drawn,
    message.attachment? (ids.id place.2) = some (value place.1)
  /-- Those that were there stay. -/
  kept : ∀ contentId data, envelope.attachment? contentId = some data →
    message.attachment? contentId = some data
  /-- The elements that refer to the values have these values still. -/
  after : (outermost isBinaryName replaced).map
      (fun binary => decode .dataSource (.ofElement binary) message) =
    (outermost isBinaryName nodes).map fun binary => .ok (.data (value binary))
  /-- Put back, each value is carried as in a message that is not optimised. -/
  back : ∀ plain supply, plain.mtom = false → inlineNodes message replaced =
    .ok (replaceEach isBinaryName
      (fun binary => (encodeData (value binary) plain supply).1.toNode) nodes)

/-- Where there are no references, all data that can be attached can be put back. -/
theorem exists_externalized {envelope message : Envelope} {ids left : IdSupply}
    {nodes replaced : List Node} (mtom : envelope.mtom = true)
    (free : ∀ element ∈ elementsWithin nodes, isIncludeName element.tag.name = false)
    (fresh : ids.FreshFor envelope.contentIds)
    (done : externalizeNodes envelope ids nodes = .ok (replaced, message, left)) :
    ∃ value, Externalized envelope message ids nodes replaced value := by
  rw [externalizeNodes_eq ids mtom fun binary => child?_eq_none_of_mem_outermost free] at done
  obtain ⟨carried, all, made⟩ := exists_of_map_eq_ok done
  cases made
  let value (binary : Element) : DataSource :=
    (binaryData binary envelope).toOption.getD ⟨defaultContentType, []⟩
  have each : ∀ binary ∈ outermost isBinaryName nodes,
      binaryData binary envelope = .ok (value binary) := eq_ok_of_mapM _ all
  have values : carried = (outermost isBinaryName nodes).map value := eq_map_of_mapM _ all
  obtain ⟨attachments, others⟩ := envelope.exists_attachAll_eq ids carried
  have optimised : (envelope.attachAll ids carried).mtom = true := others ▸ mtom
  have gained : ∀ place ∈ (outermost isBinaryName nodes).zipIdx ids.drawn,
      (envelope.attachAll ids carried).attachment? (ids.id place.2) = some (value place.1) := by
    intro place member
    have own : (value place.1, place.2) ∈ carried.zipIdx ids.drawn := by
      rw [values, List.zipIdx_map]
      exact List.mem_map_of_mem member
    exact Envelope.attachment?_attachAll_of_mem fresh.1 own
  refine ⟨value, ?before, rfl, ?others, ?count, gained,
    fun _ _ => Envelope.attachment?_attachAll_of_fresh fresh carried, ?after, ?back⟩
  case before =>
    intro binary member
    rw [decode, decodeData_ofElement (kind_of_mem_outermost member), each binary member]
    rfl
  case others => rw [others]
  case count => rw [envelope.length_attachAll fresh, values, List.length_map]
  case after =>
    have places := @outermost_replaceOutermost isBinaryName nodes (referringTo ids)
      (fun _ _ => isBinaryName_binaryElement _ _) ids.drawn
    rw [places, referring_eq (mapM_eq_ok_iff.1 all),
      map_decode (decodeData_referring fresh optimised rfl), values, List.map_map]
    rfl
  case back =>
    intro plain supply notOptimised
    refine inlineNodes_replaceOutermost (outermost_eq_nil_iff.2 free) fun place member => ?_
    have type := contentType_of_binaryData (each place.1 (List.fst_mem_of_mem_zipIdx member))
    rw [referringTo, ← type]
    exact inlineNode_reference optimised (gained place member) notOptimised supply

/-- In an optimised message, a document without references has its data attached and put back,
unless an outermost `Binary` element of it holds what is not base64. -/
theorem externalizing_inlining {envelope : Envelope} {ids : IdSupply} {nodes : List Node}
    (mtom : envelope.mtom = true)
    (free : ∀ element ∈ elementsWithin nodes, isIncludeName element.tag.name = false)
    (fresh : ids.FreshFor envelope.contentIds) :
    (∀ error, orMalformed (externalizeNodes envelope ids nodes) = .error error ↔
      error = .malformedPayload .invalidBase64 ∧ ∃ binary ∈ outermost isBinaryName nodes,
        ∀ bytes, Text.removeBlanks (charactersOf binary.children) ≠ Base64.encode bytes) ∧
    ∀ replaced message left,
      orMalformed (externalizeNodes envelope ids nodes) = .ok (replaced, message, left) →
        ∃ value, Externalized envelope message ids nodes replaced value :=
  ⟨fun _ => externalizeNodes_eq_error_iff mtom free,
    fun _ _ _ done => exists_externalized mtom free fresh (eq_ok_of_mapError done)⟩

/-! ## A document with data within data -/

/-- A `Binary` element that holds data of its own, and another element of its kind. -/
def layeredNote : Element where
  tag := { name := "pmo:Binary" }
  children := [.text " Bw ", heldNote.toNode, .text "g="]

/-- A document with that element, and with the other one by itself further in. -/
def layeredNodes : List Node :=
  [layeredNote.toNode, (Element.ofName "x" [heldNote.toNode, .text "y"]).toNode]

/-- Both pieces of data are attached behind what is attached already, and put back; the inner
element of the first one is not looked at, and is gone. Text that is not base64 is refused. -/
theorem externalizing_inlining_layered :
    (∃ replaced message left,
      externalizeNodes (messageWith [4]) unaryIds layeredNodes = .ok (replaced, message, left) ∧
      message.attachments.length = 4 ∧ message.attachment? "b" = some ⟨"text/plain", [4]⟩ ∧
      message.attachment? "u@pmosoap" = some ⟨"b", [1, 2, 3]⟩ ∧
      inlineNodes message replaced =
        .ok [(binaryElement defaultContentType (.text "Bwg=")).toNode,
          (Element.ofName "x" [(binaryElement "b" (.text "AQID")).toNode, .text "y"]).toNode]) ∧
    orMalformed (externalizeNodes (messageWith [4]) unaryIds
        [(Element.ofText "Binary" "Bw").toNode, layeredNote.toNode]) =
      .error (.malformedPayload .invalidBase64) := by
  have fresh : unaryIds.FreshFor (messageWith [4]).contentIds := by
    have taken : (messageWith [4]).contentIds = ["a", "b"] := rfl
    refine ⟨injective_unaryIds, fun number least known => ?_⟩
    rw [taken] at known
    rcases List.mem_cons.1 known with first | second
    · exact IdSupply.spares_of_length_lt (by decide) number least first.symm
    · exact IdSupply.spares_of_length_lt (by decide) number least (List.mem_singleton.1 second).symm
  constructor
  · have free : ∀ element ∈ elementsWithin layeredNodes,
        isIncludeName element.tag.name = false := outermost_eq_nil_iff.1 rfl
    obtain ⟨⟨replaced, message, left⟩, done⟩ : ∃ result,
        orMalformed (externalizeNodes (messageWith [4]) unaryIds layeredNodes) = .ok result :=
      ⟨_, rfl⟩
    obtain ⟨value, externalized⟩ :=
      (externalizing_inlining rfl free fresh).2 replaced message left done
    have first : value layeredNote = ⟨defaultContentType, [7, 8]⟩ :=
      (Payload.data.inj (Except.ok.inj
        (externalized.before layeredNote List.mem_cons_self))).symm
    have second : value heldNote = ⟨"b", [1, 2, 3]⟩ :=
      (Payload.data.inj (Except.ok.inj
        (externalized.before heldNote (List.mem_cons_of_mem _ List.mem_cons_self)))).symm
    refine ⟨replaced, message, left, eq_ok_of_mapError done, externalized.count,
      externalized.kept "b" _ rfl, ?_, ?_⟩
    · rw [← second]
      exact externalized.gained (heldNote, 1) (List.mem_cons_of_mem _ List.mem_cons_self)
    · have places (replacement : Element → Node) :
          replaceEach isBinaryName replacement layeredNodes = [replacement layeredNote,
            (Element.ofName "x" [replacement heldNote, .text "y"]).toNode] := rfl
      rw [externalized.back (.new .soap11) unaryIds rfl, places, first, second]
      rfl
  · have free : ∀ element ∈ elementsWithin [(Element.ofText "Binary" "Bw").toNode,
        layeredNote.toNode], isIncludeName element.tag.name = false := outermost_eq_nil_iff.1 rfl
    refine ((externalizing_inlining rfl free fresh).1 _).2
      ⟨rfl, Element.ofText "Binary" "Bw", List.mem_cons_self, ?_⟩
    intro bytes same
    cases (decode?_toList_eq_some_iff.2 same).symm.trans rfl

end SoapDispatch.Codec
