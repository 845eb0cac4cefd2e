import SoapDispatch.Proofs.TreeForm
import SoapDispatch.Proofs.WrittenTrees

/-!
# Messages as they are written

A message is written with the envelope's vocabulary under one qualifier, which its root declares, so
everything in its body is read in a scope with that qualifier bound. What is then found in the body
decides what is read of the message: for a fault it is the fault that was written, in either layout,
as long as the text of its reason and its detail survives reading.
-/

namespace SoapDispatch

open SoapDispatch.Xml

namespace Xml

/-! ## Names and texts -/

instance (name : QName) (chars : List Char) : Decidable (name.SpelledBy chars) :=
  decidable_of_iff (chars.all isNameChar = true ∧ QName.ofChars? chars = some name)
    ⟨fun told => ⟨List.all_eq_true.1 told.1, told.2⟩,
      fun spelled => ⟨List.all_eq_true.2 spelled.legal, spelled.complete⟩⟩

/-- A name is the one that its spelling is read as. -/
theorem QName.SpelledBy.ofSpelling_eq {name : QName} {chars : List Char}
    (spelled : name.SpelledBy chars) : QName.ofSpelling chars = name := by
  rw [QName.ofSpelling, spelled.complete]
  rfl

/-- A tag that is built by hand is written with its own attributes alone. -/
theorem Tag.writtenPairs_mk (name : String) (attributes : Attributes) (declared : Bindings) :
    ({ name, attributes } : Tag).writtenPairs declared = attributes := rfl

/-- A tag that is built by hand is legible if its name and its attributes are. -/
theorem Tag.legible_mk {name : String} {attributes : Attributes} {read : QName}
    (spelled : read.SpelledBy name.toList)
    (unreserved : PartialStartTag.isReserved read.qualifier = false)
    (pairs : ∀ pair ∈ attributes, LegiblePair pair) : Tag.Legible { name, attributes } := by
  have same : ({ name, attributes } : Tag).readName = read := spelled.ofSpelling_eq
  exact ⟨same ▸ spelled, same ▸ unreserved, pairs⟩

/-- A pair is legible if its key is a legible name and its value may stand in a document. -/
theorem LegiblePair.of_key {name : QName} {key value : String} (spelled : name.SpelledBy key.toList)
    (ascii : (key.toList.head?.all fun c => decide (c.toNat < 0x80)) = true)
    (admitted : ∀ c ∈ value.toList, Version.v10.admits c = true) : LegiblePair (key, value) :=
  ⟨spelled.ofSpelling_eq ▸ spelled,
    fun c first => of_decide_eq_true ((Option.all_eq_true _ _).1 ascii c first), admitted⟩

/-- An element that holds a text, as it is read. -/
def Element.leaf (tag : Tag) (text : String) : Element where
  tag
  children := keptText text

/-- The text of an element that holds one is the one that was written, if anything in it is
visible. -/
@[simp] theorem Element.text?_leaf (tag : Tag) (text : String) :
    (leaf tag text).text? = if isSpacing text then none else some text := by
  cases blank : isSpacing text <;> simp [leaf, keptText, blank, text?, Node.characters?, String.join]

/-- A text without any character, or with a visible one, survives reading. -/
theorem Element.getD_text?_leaf (tag : Tag) {text : String}
    (kept : text = "" ∨ isSpacing text = false) : (leaf tag text).text?.getD "" = text := by
  rw [text?_leaf]
  rcases kept with none | visible
  · rw [none]
    rfl
  · rw [visible]
    rfl

@[simp] theorem Element.localName_mk (tag : Tag) (children : List Node) :
    ({ tag, children } : Element).localName = Xml.localName tag.name := rfl

@[simp] theorem Element.localName_leaf (tag : Tag) (text : String) :
    (leaf tag text).localName = Xml.localName tag.name := rfl

/-- A child is looked for among the nodes of an element, whatever its tag is. -/
@[simp] theorem Element.child?_cons (tag : Tag) (child : Element) (rest : List Node) (name : String) :
    ({ tag, children := child.toNode :: rest } : Element).child? name =
      if child.localName = name then some child else ({ tag, children := rest } : Element).child? name :=
  child?_ofName_cons "" name child rest

/-- There is no child without nodes. -/
@[simp] theorem Element.child?_nil (tag : Tag) (name : String) :
    ({ tag, children := [] } : Element).child? name = none := rfl

/-- An element that holds an admitted text is legible if its tag is. -/
theorem LegibleNodes.leaf {tag : Tag} {text : String} {rest : List Node} (legible : tag.Legible)
    (admitted : ∀ c ∈ text.toList, Version.v10.admits c = true) (behind : LegibleNodes rest) :
    LegibleNodes (.element tag [.text text] :: rest) :=
  .element legible (.text admitted (by simp) .nil) behind

section Rereading

variable {scope declared inner : Bindings} {tag known : Tag} {children nodes rest others : List Node}

/-- A forest is read if its first tag, what stands in that element, and the others are. -/
theorem rereadNodes_cons (read : tag.reread scope declared = .ok (inner, known))
    (inside : rereadNodes inner (tag.newBindings declared ++ declared) children = .ok nodes)
    (behind : rereadNodes scope declared rest = .ok others) :
    rereadNodes scope declared (.element tag children :: rest) =
      .ok (.element known nodes :: others) := by
  rw [rereadNodes_element, read]
  simp only [Except.bind, inside, behind]
  rfl

/-- An element that holds a text is read with what is left of the text. -/
theorem rereadNodes_leaf (read : tag.reread scope declared = .ok (inner, known)) (text : String)
    (behind : rereadNodes scope declared rest = .ok others) :
    rereadNodes scope declared (.element tag [.text text] :: rest) =
      .ok ((Element.leaf known text).toNode :: others) := by
  refine rereadNodes_cons read ?_ behind
  rw [rereadNodes_text]
  exact congrArg Except.ok (List.append_nil _)

end Rereading

end Xml

namespace Soap

/-! ## The vocabulary of envelopes -/

namespace Protocol

/-- The bindings in scope in a message without headers. -/
def bindings (protocol : Protocol) : Bindings :=
  [(envelopeQualifier, protocol.envelopeUri)]

/-- A tag of the envelope's vocabulary, as it is read in a message. -/
def readTag (protocol : Protocol) (base : String) (attributes : Attributes := []) : Tag where
  name := base
  qualifier := envelopeQualifier
  uri := protocol.envelopeUri
  bindings := protocol.bindings
  attributes

/-- A tag without a qualifier, as it is read in a message. -/
def plainTag (protocol : Protocol) (name : String) : Tag where
  name
  bindings := protocol.bindings

@[simp] theorem name_readTag (protocol : Protocol) (base : String) (attributes : Attributes) :
    (protocol.readTag base attributes).name = base := rfl

@[simp] theorem name_plainTag (protocol : Protocol) (name : String) :
    (protocol.plainTag name).name = name := rfl

variable (protocol : Protocol)

/-- The names of the vocabulary that carry no attributes. -/
def vocabulary : List String :=
  ["Body", "Fault", "Code", "Value", "Reason", "Detail"]

/-- They are legible with their qualifier. -/
theorem legible_of_mem_vocabulary {base : String} (member : base ∈ vocabulary) :
    Tag.Legible { name := envelopeName base } := by
  have spelled : ∀ base ∈ vocabulary,
      (⟨some envelopeQualifier, base⟩ : QName).SpelledBy (envelopeName base).toList := by decide
  exact Tag.legible_mk (spelled base member) rfl (by simp)

/-- They are read in the scope of a message. -/
theorem reread_of_mem_vocabulary {base : String} (member : base ∈ vocabulary)
    (declared : Bindings) : ({ name := envelopeName base } : Tag).reread protocol.bindings declared =
      .ok (protocol.bindings, protocol.readTag base) := by
  simp only [vocabulary, List.mem_cons, List.not_mem_nil, or_false] at member
  rcases member with rfl | rfl | rfl | rfl | rfl | rfl <;> cases protocol <;> rfl

/-- The tag that the root of a message is written with. -/
def rootTag : Tag where
  name := envelopeName "Envelope"
  attributes := [("xmlns:" ++ envelopeQualifier, protocol.envelopeUri)]

/-- The root of a message is legible. -/
theorem legible_rootTag : protocol.rootTag.Legible := by
  have spelled : (⟨some envelopeQualifier, "Envelope"⟩ : QName).SpelledBy
      (envelopeName "Envelope").toList := by decide
  have declaration : (⟨some "xmlns", envelopeQualifier⟩ : QName).SpelledBy
      ("xmlns:" ++ envelopeQualifier).toList := by decide
  have admitted : protocol.envelopeUri.toList.all Version.v10.admits = true := by
    cases protocol <;> decide
  refine Tag.legible_mk spelled rfl fun pair member => ?_
  cases List.mem_singleton.1 member
  exact .of_key declaration (by decide) (List.all_eq_true.1 admitted)

/-- The root of a message declares the qualifier of the vocabulary. -/
theorem reread_rootTag :
    protocol.rootTag.reread [] [] = .ok (protocol.bindings, protocol.readTag "Envelope") := by
  cases protocol <;> rfl

/-- It declares no binding besides. -/
theorem newBindings_rootTag : protocol.rootTag.newBindings [] = [] := rfl

end Protocol

/-! ## Faults -/

namespace Fault

variable (fault : Fault)

/-- The parts of a fault element as they are read. -/
def readParts : Protocol → List Element
  | .soap11 =>
    [.leaf (Protocol.plainTag .soap11 "faultcode") (fault.writtenCode .soap11),
      .leaf (Protocol.plainTag .soap11 "faultstring") fault.reason] ++
      (fault.detail.map (.leaf (Protocol.plainTag .soap11 "detail"))).toList
  | .soap12 =>
    [{ tag := Protocol.readTag .soap12 "Code"
       children := [(Element.leaf (Protocol.readTag .soap12 "Value")
        (fault.writtenCode .soap12)).toNode] },
      { tag := Protocol.readTag .soap12 "Reason"
        children := [(Element.leaf (Protocol.readTag .soap12 "Text" [("lang", "en")])
          fault.reason).toNode] }] ++
      (fault.detail.map (.leaf (Protocol.readTag .soap12 "Detail"))).toList

/-- The fault element as it is read. -/
def readElement (protocol : Protocol) : Element where
  tag := protocol.readTag "Fault"
  children := (fault.readParts protocol).map Element.toNode

/-- The parts of a fault element in SOAP 1.1, by name. -/
def partNames : List String :=
  ["faultcode", "faultstring", "detail"]

/-- They are legible. -/
theorem legible_of_mem_partNames {name : String} (member : name ∈ partNames) :
    Tag.Legible { name } := by
  have spelled : ∀ name ∈ partNames, ({ base := name } : QName).SpelledBy name.toList := by decide
  exact Tag.legible_mk (spelled name member) rfl (by simp)

/-- They are read as they are written. -/
theorem reread_of_mem_partNames {name : String} (member : name ∈ partNames)
    (protocol : Protocol) : ({ name } : Tag).reread protocol.bindings [] =
      .ok (protocol.bindings, protocol.plainTag name) := by
  simp only [partNames, List.mem_cons, List.not_mem_nil, or_false] at member
  rcases member with rfl | rfl | rfl <;> cases protocol <;> rfl

/-- The tag around a reason in SOAP 1.2. -/
def reasonTag : Tag where
  name := envelopeName "Text"
  attributes := [("xml:lang", "en")]

/-- It is legible. -/
theorem legible_reasonTag : reasonTag.Legible := by
  have spelled : (⟨some envelopeQualifier, "Text"⟩ : QName).SpelledBy
      (envelopeName "Text").toList := by decide
  have language : (⟨some "xml", "lang"⟩ : QName).SpelledBy "xml:lang".toList := by decide
  have admitted : "en".toList.all Version.v10.admits = true := by decide
  refine Tag.legible_mk spelled rfl fun pair member => ?_
  cases List.mem_singleton.1 member
  exact .of_key language (by decide) (List.all_eq_true.1 admitted)

/-- It is read with its language. -/
theorem reread_reasonTag (protocol : Protocol) : reasonTag.reread protocol.bindings [] =
    .ok (protocol.bindings, protocol.readTag "Text" [("lang", "en")]) := by
  cases protocol <;> rfl

/-- The parts of a fault element are read in a message. -/
theorem reread_parts11 : rereadNodes (Protocol.bindings .soap11) []
    (fault.parts11.map Element.toNode) = .ok ((fault.readParts .soap11).map Element.toNode) := by
  have leaf {name : String} (member : name ∈ partNames) (text : String) {rest others : List Node} :=
    @rereadNodes_leaf _ _ _ _ _ rest others (reread_of_mem_partNames member .soap11) text
  refine leaf (by decide) _ (leaf (by decide) _ ?_)
  cases fault.detail with
  | none => rfl
  | some detail => exact leaf (by decide) detail rfl

/-- They are in the other layout as well. -/
theorem reread_parts12 : rereadNodes (Protocol.bindings .soap12) []
    (fault.parts12.map Element.toNode) = .ok ((fault.readParts .soap12).map Element.toNode) := by
  have known {base : String} (member : base ∈ Protocol.vocabulary) :=
    Protocol.reread_of_mem_vocabulary .soap12 member []
  refine rereadNodes_cons (known (by decide)) (rereadNodes_leaf (known (by decide)) _ rfl)
    (rereadNodes_cons (known (by decide))
      (rereadNodes_leaf (reread_reasonTag .soap12) _ rfl) ?_)
  cases fault.detail with
  | none => rfl
  | some detail => exact rereadNodes_leaf (known (by decide)) detail rfl

/-- A fault element is read in a message. -/
theorem reread_toElement (protocol : Protocol) : rereadNodes protocol.bindings []
    [(fault.toElement protocol).toNode] = .ok [(fault.readElement protocol).toNode] := by
  refine rereadNodes_cons (protocol.reread_of_mem_vocabulary (by decide) []) ?_ rfl
  cases protocol with
  | soap11 => exact fault.reread_parts11
  | soap12 => exact fault.reread_parts12

variable {fault} {protocol : Protocol}

/-- The code of a fault is visible. -/
@[simp] theorem isSpacing_writtenCode (fault : Fault) (protocol : Protocol) :
    isSpacing (fault.writtenCode protocol) = false := by
  rw [writtenCode]
  cases fault.code <;> cases protocol <;> decide

/-- What a fault says survives reading: its reason has a visible character or none at all, and its
detail, if there is one, has a visible character. -/
structure Visible (fault : Fault) : Prop where
  reason : fault.reason = "" ∨ isSpacing fault.reason = false
  detail : ∀ text, fault.detail = some text → isSpacing text = false

/-- A fault is read from the element that is read for it in SOAP 1.1. -/
theorem Visible.ofElement_readElement11 {fault : Fault} (visible : fault.Visible) :
    ofElement (fault.readElement .soap11) = .ok fault := by
  have names : localName "faultcode" = "faultcode" ∧ localName "faultstring" = "faultstring" ∧
      localName "detail" = "detail" := by decide
  refine ofElement_of_texts .soap11 ?_ ?_ ?_
  · simp [textAt?, readElement, readParts, names]
  · rw [← Element.getD_text?_leaf (Protocol.plainTag .soap11 "faultstring") visible.reason]
    simp [textAt?, readElement, readParts, names]
  · cases known : fault.detail with
    | none => simp [readElement, readParts, known, names]
    | some text => simp [readElement, readParts, known, names, visible.detail text known]

/-- A fault is read from the element that is read for it in SOAP 1.2. -/
theorem Visible.ofElement_readElement12 {fault : Fault} (visible : fault.Visible) :
    ofElement (fault.readElement .soap12) = .ok fault := by
  have names : localName "Code" = "Code" ∧ localName "Value" = "Value" ∧
      localName "Reason" = "Reason" ∧ localName "Text" = "Text" ∧
        localName "Detail" = "Detail" := by decide
  refine ofElement_of_texts .soap12 ?_ ?_ ?_
  · cases known : fault.detail <;> simp [textAt?, readElement, readParts, known, names]
  · rw [← Element.getD_text?_leaf (Protocol.readTag .soap12 "Text" [("lang", "en")]) visible.reason]
    cases known : fault.detail <;> simp [textAt?, readElement, readParts, known, names]
  · cases known : fault.detail with
    | none => simp [readElement, readParts, known, names]
    | some text => simp [readElement, readParts, known, names, visible.detail text known]

/-- A fault is read from the element that is read for it in either layout. -/
theorem Visible.ofElement_readElement {fault : Fault} (visible : fault.Visible)
    (protocol : Protocol) : ofElement (fault.readElement protocol) = .ok fault := by
  cases protocol with
  | soap11 => exact visible.ofElement_readElement11
  | soap12 => exact visible.ofElement_readElement12

/-- A document of version 1.0 may hold what a fault says. -/
structure Admitted (fault : Fault) : Prop where
  reason : ∀ c ∈ fault.reason.toList, Version.v10.admits c = true
  detail : ∀ text, fault.detail = some text → ∀ c ∈ text.toList, Version.v10.admits c = true

/-- It may always hold the code. -/
theorem admits_writtenCode (fault : Fault) (protocol : Protocol) :
    ∀ c ∈ (fault.writtenCode protocol).toList, Version.v10.admits c = true := by
  refine List.all_eq_true.1 ?_
  rw [writtenCode]
  cases fault.code <;> cases protocol <;> decide

/-- The parts of a fault element are legible. -/
theorem Admitted.legible_parts11 {fault : Fault} (admitted : fault.Admitted) :
    LegibleNodes (fault.parts11.map Element.toNode) := by
  have named {name : String} := @legible_of_mem_partNames name
  refine .leaf (named (by decide)) (fault.admits_writtenCode _)
    (.leaf (named (by decide)) admitted.reason ?_)
  cases known : fault.detail with
  | none => exact .nil
  | some text => exact .leaf (named (by decide)) (admitted.detail text known) .nil

/-- They are in the other layout as well. -/
theorem Admitted.legible_parts12 {fault : Fault} (admitted : fault.Admitted) :
    LegibleNodes (fault.parts12.map Element.toNode) := by
  have named {base : String} := @Protocol.legible_of_mem_vocabulary base
  refine .element (named (by decide)) (.leaf (named (by decide)) (fault.admits_writtenCode _) .nil)
    (.element (named (by decide)) (.leaf legible_reasonTag admitted.reason .nil) ?_)
  cases known : fault.detail with
  | none => exact .nil
  | some text => exact .leaf (named (by decide)) (admitted.detail text known) .nil

/-- The element of a fault is legible. -/
theorem Admitted.legible_toElement {fault : Fault} (admitted : fault.Admitted)
    (protocol : Protocol) : LegibleNodes [(fault.toElement protocol).toNode] := by
  refine .element (Protocol.legible_of_mem_vocabulary (by decide)) ?_ .nil
  cases protocol with
  | soap11 => exact admitted.legible_parts11
  | soap12 => exact admitted.legible_parts12

end Fault

/-! ## Whole messages -/

namespace Envelope

/-- A message without headers is read when its version and its body are found. -/
theorem ofElement_of_body {root body : Element} {protocol : Protocol} {content : Content}
    (name : root.localName = "Envelope") (version : declaredUri? root = some protocol.envelopeUri)
    (found : root.child? "Body" = some body) (headless : root.child? "Header" = none)
    (carried : contentOf body = .ok content) : ofElement root = .ok { protocol, content } := by
  simp only [ofElement, name, ne_eq, not_true_eq_false, if_false, version,
    Protocol.ofUri?_envelopeUri, found, headless, carried]
  rfl

/-- The element that is read as the root of a message. -/
def readRoot (protocol : Protocol) (nodes : List Node) : Element where
  tag := protocol.readTag "Envelope"
  children := [Element.toNode { tag := protocol.readTag "Body", children := nodes }]

/-- The document of a message without headers is read with what its body is read as. -/
theorem readDocument_toXml {envelope : Envelope} {nodes : List Node}
    (headless : envelope.headers = []) (legible : LegibleNodes envelope.bodyNodes)
    (read : rereadNodes envelope.protocol.bindings [] envelope.bodyNodes = .ok nodes) :
    readDocument (Text.Utf8.encode envelope.toXml) = .ok (readRoot envelope.protocol nodes) := by
  have inBody : "Body" ∈ Protocol.vocabulary := by decide
  have root : envelope.toElement.tag = envelope.protocol.rootTag := rfl
  have parts : envelope.toElement.children =
      [.element { name := envelopeName "Body" } envelope.bodyNodes] := by
    simp [toElement, Envelope.parts, headless, Element.ofName, Element.toNode]
  have admitted : LegibleNodes envelope.toElement.children := by
    rw [parts]
    exact .element (Protocol.legible_of_mem_vocabulary inBody) legible .nil
  have inside : rereadNodes envelope.protocol.bindings []
      [.element { name := envelopeName "Body" } envelope.bodyNodes] =
        .ok [.element (envelope.protocol.readTag "Body") nodes] :=
    rereadNodes_cons (envelope.protocol.reread_of_mem_vocabulary inBody []) read rfl
  rw [toXml, readDocument_write_of_legible (root ▸ envelope.protocol.legible_rootTag) admitted,
    Element.reread, parts, root, Protocol.reread_rootTag]
  simp only [bind, Except.bind]
  rw [Protocol.newBindings_rootTag, inside]
  rfl

/-- What a message without headers is read as is decided by what its body is read as. -/
theorem parse_toXml (envelope : Envelope) {nodes : List Node} {content : Content}
    (headless : envelope.headers = []) (legible : LegibleNodes envelope.bodyNodes)
    (read : rereadNodes envelope.protocol.bindings [] envelope.bodyNodes = .ok nodes)
    (carried : contentOf { tag := envelope.protocol.readTag "Body", children := nodes } =
      .ok content) :
    parse (Text.Utf8.encode envelope.toXml) = .ok { protocol := envelope.protocol, content } := by
  have names : localName "Envelope" = "Envelope" ∧ localName "Body" = "Body" := by decide
  let body : Element := { tag := envelope.protocol.readTag "Body", children := nodes }
  have child (name : String) : (readRoot envelope.protocol nodes).child? name =
      if body.localName = name then some body else none :=
    Element.child?_cons _ body [] name
  have bodyName : body.localName = "Body" := names.2
  rw [parse, readDocument_toXml headless legible read]
  refine ofElement_of_body names.1 rfl ?_ ?_ carried
  · rw [child, bodyName, if_pos rfl]
  · rw [child, bodyName, if_neg (by decide)]

/-- A fault survives the wire: reading the document of its message gives the message back, with
whatever marks there are in its texts. -/
theorem parse_toXml_ofFault (protocol : Protocol) {fault : Fault} (visible : fault.Visible)
    (admitted : fault.Admitted) :
    parse (Text.Utf8.encode (ofFault protocol fault).toXml) = .ok (ofFault protocol fault) := by
  have found : (⟨protocol.readTag "Body", [(fault.readElement protocol).toNode]⟩ : Element).child?
      "Fault" = some (fault.readElement protocol) := by
    have name : (fault.readElement protocol).localName = "Fault" := by
      have plain : localName "Fault" = "Fault" := by decide
      exact plain
    rw [Element.child?_cons, if_pos name]
  have carried : contentOf ⟨protocol.readTag "Body", [(fault.readElement protocol).toNode]⟩ =
      .ok (.fault fault) := by
    simp only [contentOf, found, visible.ofElement_readElement]
    rfl
  exact parse_toXml _ rfl (admitted.legible_toElement protocol) (fault.reread_toElement protocol)
    carried

/-- A fault that quotes markup, its detail on a line of its own. -/
def quotingFault : Fault where
  code := .client
  reason := "1 < 2 && \"a\" > 'b' ]]>"
  detail := some "\n<value xml:lang=\"en\"/>"

/-- It comes back in either version. -/
theorem parse_toXml_quotingFault :
    (quotingFault.Visible ∧ quotingFault.Admitted) ∧
      parse (Text.Utf8.encode (ofFault .soap11 quotingFault).toXml) =
        .ok (ofFault .soap11 quotingFault) ∧
      parse (Text.Utf8.encode (ofFault .soap12 quotingFault).toXml) =
        .ok (ofFault .soap12 quotingFault) := by
  have visible : quotingFault.Visible := by
    refine ⟨.inr (by decide), fun text known => ?_⟩
    cases known
    decide
  have admitted : quotingFault.Admitted := by
    refine ⟨List.all_eq_true.1 (by decide), fun text known => List.all_eq_true.1 ?_⟩
    cases known
    decide
  exact ⟨⟨visible, admitted⟩, parse_toXml_ofFault .soap11 visible admitted,
    parse_toXml_ofFault .soap12 visible admitted⟩

end Envelope

end Soap

end SoapDispatch
