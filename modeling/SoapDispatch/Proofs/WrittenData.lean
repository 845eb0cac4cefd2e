import SoapDispatch.Proofs.RoundTrip
import SoapDispatch.Proofs.WrittenMessages

/-!
# Data as it is written

The element that carries data is read as an element of the same local name, its namespace bound and
its content type kept. The bytes are found again whether the element holds them in base64, of which
nothing is left if there are none, or refers to an attachment, which travels beside the document.
-/

namespace SoapDispatch

open SoapDispatch.Soap SoapDispatch.Xml

namespace Xml

/-! ## Tags that declare their qualifier -/

/-- What is fixed of a tag that declares the qualifier of its own name and has one attribute. -/
structure DeclaringName where
  qualifier : String
  base : String
  /-- The name in one piece. -/
  written : String
  /-- The key that the qualifier is declared with. -/
  declaration : String
  uri : String
  key : String

namespace DeclaringName

/-- The tag as it is built by hand. -/
def tag (name : DeclaringName) (value : String) : Tag where
  name := name.written
  attributes := [(name.declaration, name.uri), (name.key, value)]

/-- The bindings in scope inside of the tag. -/
def scope (name : DeclaringName) (outer : Bindings) : Bindings :=
  Dictionary.insert name.qualifier name.uri outer

/-- The tag as it is read in a scope. -/
def readTag (name : DeclaringName) (outer : Bindings) (value : String) : Tag where
  name := name.base
  qualifier := name.qualifier
  uri := name.uri
  bindings := (name.scope outer).telling
  attributes := [(name.key, value)]

/-- The parts are names, the qualifier is free to be declared, and it may stand for the namespace. -/
structure Regular (name : DeclaringName) : Prop where
  spelled : (⟨some name.qualifier, name.base⟩ : QName).SpelledBy name.written.toList
  declaration : (⟨some "xmlns", name.qualifier⟩ : QName).SpelledBy name.declaration.toList
  key : (⟨none, name.key⟩ : QName).SpelledBy name.key.toList
  ascii : (name.key.toList.head?.all fun c => decide (c.toNat < 0x80)) = true
  declarationAscii : (name.declaration.toList.head?.all fun c => decide (c.toNat < 0x80)) = true
  free : name.qualifier ≠ "xml" ∧ name.qualifier ≠ "xmlns" ∧ name.key ≠ "xmlns"
  bound : name.uri ≠ ""
  admitted : name.uri.toList.all Version.v10.admits = true

variable {name : DeclaringName}

/-- The tag is legible if the value of its attribute is. -/
theorem Regular.legible (regular : name.Regular) {value : String}
    (admitted : ∀ c ∈ value.toList, Version.v10.admits c = true) : (name.tag value).Legible := by
  have unreserved : PartialStartTag.isReserved (some name.qualifier) = false := by
    simp [PartialStartTag.isReserved, regular.free]
  have declared : LegiblePair (name.declaration, name.uri) :=
    .of_key regular.declaration regular.declarationAscii (List.all_eq_true.1 regular.admitted)
  have own : LegiblePair (name.key, value) :=
    .of_key regular.key regular.ascii admitted
  exact Tag.legible_mk regular.spelled unreserved
    (List.forall_mem_cons.2 ⟨declared, List.forall_mem_cons.2 ⟨own, by simp⟩⟩)

/-- The tag is read with its attribute, and with its qualifier bound inside of it. -/
theorem Regular.reread (regular : name.Regular) (outer : Bindings) (value : String) :
    (name.tag value).reread outer [] = .ok (name.scope outer, name.readTag outer value) := by
  have pairs : ((name.tag value).writtenPairs []).map readPair =
      [(⟨some "xmlns", name.qualifier⟩, name.uri), (⟨none, name.key⟩, value)] := by
    rw [tag, Tag.writtenPairs_mk, List.map_cons, List.map_singleton, readPair, readPair,
      regular.declaration.ofSpelling_eq, regular.key.ofSpelling_eq]
  have read : (name.tag value).readName = ⟨some name.qualifier, name.base⟩ :=
    regular.spelled.ofSpelling_eq
  have declared : declaredBindings
      [(⟨some "xmlns", name.qualifier⟩, name.uri), (⟨none, name.key⟩, value)] =
        .ok [(name.qualifier, name.uri)] := by
    simp [declaredBindings, regular.free, regular.bound, Dictionary.insert, bind, Except.bind]
  have bound : elementUri (name.scope outer) ⟨some name.qualifier, name.base⟩ =
      .ok (some name.uri) := by
    simp [elementUri, scope, Bindings.resolve?, regular.free]
  rw [Tag.reread, pairs, read, resolveTag, declared]
  have regularPairs : [((⟨some "xmlns", name.qualifier⟩ : QName), name.uri),
      (⟨none, name.key⟩, value)].filter (fun pair => !declaresBinding pair.1) =
        [(⟨none, name.key⟩, value)] := by
    simp [declaresBinding, regular.free]
  have inner : [(name.qualifier, name.uri)].foldl
      (fun scope binding => Dictionary.insert binding.1 binding.2 scope) outer = name.scope outer :=
    rfl
  simp only [bind, Except.bind, inner, regularPairs]
  rw [bound]
  rfl

end DeclaringName

end Xml

namespace Codec

/-! ## Elements that carry data -/

/-- The name of an element that carries data. -/
def binaryName : DeclaringName where
  qualifier := "pmo"
  base := "Binary"
  written := "pmo:Binary"
  declaration := "xmlns:pmo"
  uri := binaryUri
  key := "contentType"

/-- The name of a reference to an attachment. -/
def includeName : DeclaringName where
  qualifier := "xop"
  base := "Include"
  written := "xop:Include"
  declaration := "xmlns:xop"
  uri := includeUri
  key := "href"

theorem regular_binaryName : binaryName.Regular := by
  constructor <;> decide

theorem regular_includeName : includeName.Regular := by
  constructor <;> decide

variable (protocol : Protocol)

/-- An element that carries data, as it is read in a message. -/
def readBinary (contentType : String) (holder : List Node) : Element where
  tag := binaryName.readTag protocol.bindings contentType
  children := holder

/-- A reference to an attachment, as it is read in an element that carries data. -/
def readInclude (contentId : String) : Element where
  tag := includeName.readTag (binaryName.scope protocol.bindings) ("cid:" ++ contentId)

/-- An element that carries data is read with what is read of its holder. -/
theorem reread_binaryElement {holder : Node} {nodes : List Node} (contentType : String)
    (inside : rereadNodes (binaryName.scope protocol.bindings) [] [holder] = .ok nodes) :
    rereadNodes protocol.bindings [] [(binaryElement contentType holder).toNode] =
      .ok [(readBinary protocol contentType nodes).toNode] :=
  rereadNodes_cons (regular_binaryName.reread protocol.bindings contentType) inside rfl

/-- A reference is read in it. -/
theorem reread_includeElement (contentId : String) :
    rereadNodes (binaryName.scope protocol.bindings) [] [(includeElement contentId).toNode] =
      .ok [(readInclude protocol contentId).toNode] :=
  rereadNodes_cons (regular_includeName.reread _ ("cid:" ++ contentId)) rfl rfl

/-- The data in an element that is read is what its holder stands for. -/
theorem decodeData_readBinary (contentType : String) (holder : List Node) (envelope : Envelope) :
    decodeData (.ofElement (readBinary protocol contentType holder)) envelope =
      (binaryBytes (readBinary protocol contentType holder) envelope).map
        fun bytes => ⟨contentType, bytes⟩ := by
  have name : isBinaryName (readBinary protocol contentType holder).tag.name = true := by
    have plain : isBinaryName "Binary" = true := by decide
    exact plain
  refine decodeData_of_named name ?_ envelope
  simp [readBinary, DeclaringName.readTag, binaryName, Attributes.get?]

/-- Base64 is empty or has a visible character. -/
theorem isSpacing_encode (bytes : List UInt8) :
    Base64.encode bytes = "" ∨ isSpacing (Base64.encode bytes) = false := by
  have visible : ∀ c ∈ Base64.encodeChars bytes, isSpace c = false :=
    forall_mem_encodeChars (by decide) (by decide) bytes
  rw [isSpacing, Base64.encode, String.toList_ofList]
  cases chars : Base64.encodeChars bytes with
  | nil => exact .inl rfl
  | cons c rest =>
    right
    rw [List.all_cons, visible c (chars ▸ List.mem_cons_self ..), Bool.false_and]

/-- Data that an element holds in base64 is read, and no data from none. -/
theorem decodeData_readBinary_text (data : DataSource) (envelope : Envelope) :
    decodeData (.ofElement (readBinary protocol data.contentType
      (keptText (Base64.encode data.bytes)))) envelope = .ok data := by
  have unreferenced : (readBinary protocol data.contentType
      (keptText (Base64.encode data.bytes))).child? "Include" = none := by
    rw [keptText]
    split <;> rfl
  have text : (readBinary protocol data.contentType
      (keptText (Base64.encode data.bytes))).text?.getD "" = Base64.encode data.bytes :=
    Element.getD_text?_leaf _ (isSpacing_encode data.bytes)
  rw [decodeData_readBinary, binaryBytes, unreferenced]
  simp only [text, decode?_removeBlanks_encode]
  rfl

/-- Data that an element refers to is read, once it is attached. -/
theorem decodeData_readBinary_include (data : DataSource) {envelope : Envelope}
    {contentId : String} (mtom : envelope.mtom = true)
    (attached : envelope.attachment? contentId = some data) :
    decodeData (.ofElement (readBinary protocol data.contentType
      [(readInclude protocol contentId).toNode])) envelope = .ok data := by
  have name : (readInclude protocol contentId).localName = "Include" := by
    have plain : localName "Include" = "Include" := by decide
    exact plain
  have reference : (readBinary protocol data.contentType
      [(readInclude protocol contentId).toNode]).child? "Include" =
        some (readInclude protocol contentId) :=
    (Element.child?_cons _ _ [] "Include").trans (if_pos name)
  have href : (readInclude protocol contentId).tag.attributes.get? "href" =
      some ("cid:" ++ contentId) := by
    simp [readInclude, DeclaringName.readTag, includeName, Attributes.get?]
  rw [decodeData_readBinary, binaryBytes, reference]
  simp only [resolveInclude_of_href data href mtom attached]
  rfl

/-! ## The way over the wire -/

/-- A message that carries data is read with the element that is read for its data. -/
theorem parse_toXml_binaryElement (envelope : Envelope) {contentType : String} {holder : Node}
    {nodes : List Node} (headless : envelope.headers = [])
    (typed : ∀ c ∈ contentType.toList, Version.v10.admits c = true)
    (legible : LegibleNodes [holder])
    (inside : rereadNodes (binaryName.scope envelope.protocol.bindings) [] [holder] = .ok nodes) :
    Envelope.parse (Text.Utf8.encode
        (envelope.setBody (.ofElement (binaryElement contentType holder))).toXml) =
      .ok { protocol := envelope.protocol,
            content := .body (.ofElement (readBinary envelope.protocol contentType nodes)) } := by
  have name : (readBinary envelope.protocol contentType nodes).localName = "Binary" := by
    have plain : localName "Binary" = "Binary" := by decide
    exact plain
  have noFault : (⟨envelope.protocol.readTag "Body",
      [(readBinary envelope.protocol contentType nodes).toNode]⟩ : Element).child? "Fault" =
        none := by
    rw [Element.child?_cons, name, if_neg (by decide)]
    rfl
  have carried : Envelope.contentOf ⟨envelope.protocol.readTag "Body",
      [(readBinary envelope.protocol contentType nodes).toNode]⟩ =
        .ok (.body (.ofElement (readBinary envelope.protocol contentType nodes))) := by
    simp only [Envelope.contentOf, noFault]
    rfl
  exact Envelope.parse_toXml (envelope.setBody _) headless
    (.element (regular_binaryName.legible typed) legible .nil)
    (reread_binaryElement envelope.protocol contentType inside) carried

/-- The text that data is put into an element with may stand in a document. -/
theorem admits_encode (bytes : List UInt8) :
    ∀ c ∈ (Base64.encode bytes).toList, Version.v10.admits c = true := by
  rw [Base64.encode, String.toList_ofList]
  exact forall_mem_encodeChars (by decide) (by decide) bytes

/-- So may a content id, if its unique part may. -/
theorem admits_cid {ids : IdSupply}
    (unique : ∀ c ∈ (ids.unique ids.drawn).toList, Version.v10.admits c = true) :
    ∀ c ∈ ("cid:" ++ ids.next).toList, Version.v10.admits c = true := by
  have scheme : ∀ c ∈ "cid:".toList, Version.v10.admits c = true :=
    List.all_eq_true.1 (by decide)
  have suffix : ∀ c ∈ "@pmosoap".toList, Version.v10.admits c = true :=
    List.all_eq_true.1 (by decide)
  rw [IdSupply.next, IdSupply.id, String.toList_append, String.toList_append]
  exact List.forall_mem_append.2 ⟨scheme, List.forall_mem_append.2 ⟨unique, suffix⟩⟩

/-- Data survives the wire: encoded for a new message, written with it and read again, it is decoded
from the body that has been read, for an optimised message with the attachments that travel beside
the document. -/
theorem decode_parse_toXml (protocol : Protocol) (mtom : Bool) (data : DataSource)
    (ids : IdSupply) (typed : ∀ c ∈ data.contentType.toList, Version.v10.admits c = true)
    (unique : mtom = true → ∀ c ∈ (ids.unique ids.drawn).toList, Version.v10.admits c = true) :
    ∃ encoded reread body,
      encode .dataSource (.data data) ((Envelope.new protocol).setMtom mtom) ids = .ok encoded ∧
      Envelope.parse (Text.Utf8.encode (encoded.envelope.setBody encoded.body).toXml) =
        .ok reread ∧
      reread.body? = some body ∧
      decode .dataSource body
        (if mtom then
          { reread with mtom := true, attachments := encoded.envelope.attachments }
        else reread) = .ok (.data data) := by
  have decoded {body : Body} {reread : Envelope} (read : decodeData body reread = .ok data) :
      decode .dataSource body reread = .ok (.data data) := by
    rw [decode, read]
    rfl
  cases mtom with
  | false =>
    let encoded : Encoded :=
      { body := .ofElement (binaryElement data.contentType (.text (Base64.encode data.bytes)))
        envelope := Envelope.new protocol
        ids }
    have inside : rereadNodes (binaryName.scope protocol.bindings) []
        [.text (Base64.encode data.bytes)] = .ok (keptText (Base64.encode data.bytes)) := by
      rw [rereadNodes_text]
      exact congrArg Except.ok (List.append_nil _)
    have parsed := parse_toXml_binaryElement (Envelope.new protocol) rfl typed
      (.text (admits_encode data.bytes) (by simp) .nil) inside
    exact ⟨encoded, _, _, rfl, parsed, rfl, decoded (decodeData_readBinary_text protocol data _)⟩
  | true =>
    let optimised : Envelope := ((Envelope.new protocol).setMtom true).attach ids.next data
    let encoded : Encoded :=
      { body := .ofElement (binaryElement data.contentType (includeElement ids.next).toNode)
        envelope := optimised
        ids := ids.rest }
    have legible : LegibleNodes [(includeElement ids.next).toNode] :=
      .element (regular_includeName.legible (admits_cid (unique rfl))) .nil .nil
    have parsed := parse_toXml_binaryElement optimised rfl typed legible
      (reread_includeElement protocol ids.next)
    have attached : optimised.attachment? ids.next = some data :=
      Dictionary.get?_insert_self ids.next data _
    exact ⟨encoded, _, _, rfl, parsed, rfl,
      decoded (decodeData_readBinary_include protocol data rfl attached)⟩

/-- Data with a quoted type comes back out of an optimised message, and no bytes at all out of one
that is not. -/
theorem decode_parse_toXml_report :
    let report : DataSource := ⟨"text/plain; name=\"<a&b>\"", [0, 13, 255, 38]⟩
    let ids : IdSupply := ⟨toString, 0⟩
    ((∀ c ∈ report.contentType.toList, Version.v10.admits c = true) ∧
      ∀ c ∈ (ids.unique ids.drawn).toList, Version.v10.admits c = true) ∧
    (∃ encoded reread body,
      encode .dataSource (.data report) ((Envelope.new .soap12).setMtom true) ids = .ok encoded ∧
      Envelope.parse (Text.Utf8.encode (encoded.envelope.setBody encoded.body).toXml) =
        .ok reread ∧
      reread.body? = some body ∧
      decode .dataSource body
        { reread with mtom := true, attachments := encoded.envelope.attachments } =
          .ok (.data report)) ∧
    ∃ encoded reread body,
      encode .dataSource (.data { report with bytes := [] }) ((Envelope.new .soap11).setMtom false)
        ids = .ok encoded ∧
      Envelope.parse (Text.Utf8.encode (encoded.envelope.setBody encoded.body).toXml) =
        .ok reread ∧
      reread.body? = some body ∧
      decode .dataSource body reread = .ok (.data { report with bytes := [] }) := by
  intro report ids
  have typed : ∀ c ∈ report.contentType.toList, Version.v10.admits c = true :=
    List.all_eq_true.1 (by decide)
  have unique : ∀ c ∈ (ids.unique ids.drawn).toList, Version.v10.admits c = true :=
    List.all_eq_true.1 (by decide)
  exact ⟨⟨typed, unique⟩, decode_parse_toXml .soap12 true report ids typed fun _ => unique,
    decode_parse_toXml .soap11 false { report with bytes := [] } ids typed fun _ => unique⟩

end Codec

end SoapDispatch
