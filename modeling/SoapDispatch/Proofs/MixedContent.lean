import SoapDispatch.Proofs.References

/-!
# Binary elements of mixed content

The data of a `Binary` element is read in two ways. In a body, its first reference stands for all of
it. In a whole message every reference is replaced by base64, and then all characters at the top of
the element count. The two ways give the same data exactly when, next to the first reference, there
is nothing that adds a character.
-/

namespace SoapDispatch.Codec

open SoapDispatch.Xml SoapDispatch.Soap

/-! ## References that are found -/

/-- A reference stands for bytes in an optimised message if it names an attachment. -/
theorem exists_resolveInclude_of_resolves {envelope : Envelope} {reference : Element}
    (mtom : envelope.mtom = true) (resolves : envelope.Resolves reference) :
    ∃ bytes, resolveInclude reference envelope = .ok bytes := by
  obtain ⟨href, named, attached⟩ := resolves
  obtain ⟨data, found⟩ := Option.isSome_iff_exists.1 attached
  refine ⟨data.bytes, ?_⟩
  simp [resolveInclude, mtom, named, found]

/-- A forest is inlined if its outermost references are found. -/
theorem exists_inlineNodes_eq_ok {envelope : Envelope} {nodes : List Node}
    (mtom : envelope.mtom = true)
    (resolves : ∀ reference ∈ outermost isIncludeName nodes, envelope.Resolves reference) :
    ∃ inlined, inlineNodes envelope nodes = .ok inlined := by
  obtain ⟨found, all⟩ := exists_mapM_eq_ok fun reference member =>
    exists_resolveInclude_of_resolves mtom (resolves reference member)
  exact ⟨_, by rw [inlineNodes_eq, all, Except.map]⟩

/-! ## Characters of an inlined element -/

/-- What a node at the top of an element adds to its base64 characters once it is inlined. -/
def spelled (envelope : Envelope) : Node → String
  | .text content => Text.removeBlanks content
  | .cdata content => Text.removeBlanks content
  | .element tag children =>
    if isIncludeName tag.name then
      ((resolveInclude ⟨tag, children⟩ envelope).toOption.map Base64.encode).getD ""
    else ""
  | _ => ""

/-- Whether a node at the top of an element adds no character: blank text, a reference to no bytes,
or something that is no character data at all. -/
def Idle (envelope : Envelope) : Node → Prop
  | .text content => Text.isBlank content = true
  | .cdata content => Text.isBlank content = true
  | .element tag children => isIncludeName tag.name = true →
    ∀ bytes, resolveInclude ⟨tag, children⟩ envelope = .ok bytes → bytes = []
  | _ => True

/-- Only no bytes are written as no text. -/
theorem encode_eq_empty_iff {bytes : List UInt8} : Base64.encode bytes = "" ↔ bytes = [] := by
  constructor
  · intro empty
    have none : Base64.encodeChars bytes = [] := String.ofList_eq_empty_iff.1 empty
    have read := Base64.decode?_encodeChars bytes
    rw [none] at read
    exact (Option.some.inj read).symm
  · rintro rfl
    rfl

theorem spelled_eq_empty_iff {envelope : Envelope} {node : Node} :
    spelled envelope node = "" ↔ Idle envelope node := by
  cases node with
  | text content => exact Text.removeBlanks_eq_empty_iff content
  | cdata content => exact Text.removeBlanks_eq_empty_iff content
  | comment | instruction => exact ⟨fun _ => trivial, fun _ => rfl⟩
  | element tag children =>
    rw [spelled, Idle]
    cases isIncludeName tag.name with
    | false => simp
    | true =>
      cases resolveInclude ⟨tag, children⟩ envelope with
      | error cause => simp [Except.toOption]
      | ok bytes => simp [Except.toOption, encode_eq_empty_iff]

/-- A text is read as some bytes exactly when it is what they are written as. -/
theorem decode?_toList_eq_some_iff {text : String} {bytes : List UInt8} :
    Base64.decode? text.toList = some bytes ↔ text = Base64.encode bytes := by
  constructor
  · intro read
    rw [Base64.encode, Base64.encodeChars_of_decode? read, String.ofList_toList]
  · rintro rfl
    rw [Base64.encode, String.toList_ofList, Base64.decode?_encodeChars]

/-- What is written in base64 has no blanks to remove. -/
theorem removeBlanks_encode (bytes : List UInt8) :
    Text.removeBlanks (Base64.encode bytes) = Base64.encode bytes := by
  rw [Text.removeBlanks, Base64.encode, String.toList_ofList, List.filter_eq_self.2]
  intro c member
  simp [not_isBlankChar_of_mem_encodeChars bytes c member]

/-- The visible characters of an inlined forest are those that its nodes add, in their order. -/
theorem removeBlanks_charactersOf_inlined {envelope : Envelope} {nodes inlined : List Node}
    (done : inlineNodes envelope nodes = .ok inlined) :
    Text.removeBlanks (charactersOf inlined) = String.join (nodes.map (spelled envelope)) := by
  induction nodes generalizing inlined with
  | nil =>
    cases done
    rfl
  | cons node rest inductionHypothesis =>
    rw [inlineNodes] at done
    obtain ⟨first, head, tail⟩ := exists_of_bind_eq_ok done
    obtain ⟨others, later, made⟩ := exists_of_bind_eq_ok tail
    cases made
    have front : Text.removeBlanks (charactersOf [first]) = spelled envelope node := by
      cases node with
      | text content | cdata content =>
        cases head
        simp [charactersOf, Node.characters?, spelled, String.join]
      | comment | instruction =>
        cases head
        rfl
      | element tag children =>
        rw [inlineNode] at head
        rw [spelled]
        split at head
        · next refers =>
          obtain ⟨bytes, found, made⟩ := exists_of_bind_eq_ok head
          cases made
          rw [if_pos refers, found, charactersOf_text]
          simp [charactersOf, Except.toOption, String.join, removeBlanks_encode]
        · next other =>
          obtain ⟨kept, within, made⟩ := exists_of_bind_eq_ok head
          cases made
          rw [if_neg other]
          rfl
    have split : charactersOf (first :: others) = charactersOf [first] ++ charactersOf others :=
      charactersOf_append [first] others
    rw [split, Text.removeBlanks_append, front, inductionHypothesis later, List.map_cons,
      String.join_cons]

/-- Where no reference is at the top of a forest, its nodes spell its own visible characters. -/
theorem join_spelled_of_others {nodes : List Node} (envelope : Envelope)
    (others : ∀ child ∈ elementsOf nodes, isIncludeName child.tag.name = false) :
    String.join (nodes.map (spelled envelope)) = Text.removeBlanks (charactersOf nodes) := by
  induction nodes with
  | nil => rfl
  | cons node rest inductionHypothesis =>
    have split : charactersOf (node :: rest) = charactersOf [node] ++ charactersOf rest :=
      charactersOf_append [node] rest
    rw [split, Text.removeBlanks_append, List.map_cons, String.join_cons]
    cases node with
    | element tag children =>
      have plain : isIncludeName tag.name = false := others ⟨tag, children⟩ List.mem_cons_self
      have later : ∀ child ∈ elementsOf rest, isIncludeName child.tag.name = false :=
        fun child member => others child (List.mem_cons_of_mem _ member)
      rw [inductionHypothesis later, spelled, plain]
      rfl
    | text content | cdata content =>
      rw [inductionHypothesis others]
      simp [charactersOf, Node.characters?, spelled, String.join]
    | comment | instruction =>
      rw [inductionHypothesis others]
      rfl

/-- Once inlined, an element that carries data holds what its nodes spell. -/
theorem binaryBytes_inlined {envelope : Envelope} {tag : Tag} {nodes inlined : List Node}
    (done : inlineNodes envelope nodes = .ok inlined) (other : Envelope) :
    binaryBytes ⟨tag, inlined⟩ other =
      (Base64.decode? (String.join (nodes.map (spelled envelope))).toList).elim
        (.error .invalidBase64) .ok := by
  have free : (Element.mk tag inlined).child? "Include" = none :=
    child?_eq_none_of_free (free_of_inlineNodes done)
  rw [binaryBytes_of_unreferenced other free, removeBlanks_charactersOf_inlined done]

/-! ## One reference and what is next to it -/

/-- A text between two others is all of them exactly when these are empty. -/
theorem append_append_eq_iff {front middle back : String} :
    front ++ middle ++ back = middle ↔ front = "" ∧ back = "" := by
  constructor
  · intro same
    have lengths := congrArg String.length same
    simp only [String.length_append] at lengths
    exact ⟨String.length_eq_zero_iff.1 (by omega), String.length_eq_zero_iff.1 (by omega)⟩
  · rintro ⟨rfl, rfl⟩
    rw [String.empty_append, String.append_empty]

/-- Texts put together are empty exactly when each of them is. -/
theorem join_eq_empty_iff {parts : List String} :
    String.join parts = "" ↔ ∀ part ∈ parts, part = "" := by
  induction parts with
  | nil => simp [String.join]
  | cons part rest inductionHypothesis =>
    rw [String.join_cons, String.append_eq_empty_iff, inductionHypothesis, List.forall_mem_cons]

/-- Whether an element has a reference, and nothing next to the first one adds a character. -/
def SoleReference (envelope : Envelope) (binary : Element) : Prop :=
  ∃ reference before after, binary.child? "Include" = some reference ∧
    binary.children = before ++ reference.toNode :: after ∧
      ∀ node ∈ before ++ after, Idle envelope node

/-- A child of an element stands between others. -/
theorem exists_split_of_child? {element child : Element} {name : String}
    (found : element.child? name = some child) :
    ∃ before after, element.children = before ++ child.toNode :: after := by
  obtain ⟨node, member, same⟩ := List.mem_filterMap.1 (List.mem_of_find?_eq_some found)
  cases node with
  | element tag children =>
    cases same
    exact List.append_of_mem member
  | text | cdata | comment | instruction => cases same

/-- What the nodes of an element spell is what its first reference stands for exactly when nothing
next to it adds a character. -/
theorem join_spelled_eq_iff {envelope : Envelope} {binary reference : Element} {bytes : List UInt8}
    (found : binary.child? "Include" = some reference)
    (resolved : resolveInclude reference envelope = .ok bytes) :
    String.join (binary.children.map (spelled envelope)) = Base64.encode bytes ↔
      SoleReference envelope binary := by
  have refers : isIncludeName reference.tag.name = true :=
    List.find?_some (p := fun child : Element => child.localName == "Include") found
  have own : spelled envelope reference.toNode = Base64.encode bytes := by
    rw [Element.toNode, spelled, if_pos refers, resolved]
    rfl
  have parted {before after : List Node}
      (split : binary.children = before ++ reference.toNode :: after) :
      String.join (binary.children.map (spelled envelope)) = Base64.encode bytes ↔
        ∀ node ∈ before ++ after, Idle envelope node := by
    rw [split, List.map_append, List.map_cons, String.join_append, String.join_cons, own,
      ← String.append_assoc, append_append_eq_iff, join_eq_empty_iff, join_eq_empty_iff,
      List.forall_mem_append]
    simp only [List.forall_mem_map, spelled_eq_empty_iff]
  constructor
  · intro same
    obtain ⟨before, after, split⟩ := exists_split_of_child? found
    exact ⟨reference, before, after, found, split, (parted split).1 same⟩
  · rintro ⟨first, before, after, isFirst, split, idle⟩
    obtain rfl : first = reference := Option.some.inj (isFirst.symm.trans found)
    exact (parted split).2 idle

/-! ## The two ways of reading -/

/-- Data is decoded from an element that carries data exactly when it is the element's own. -/
theorem decode_dataSource_eq_ok_iff {binary : Element} {envelope : Envelope} {data : DataSource}
    (named : isBinaryName binary.tag.name = true) :
    decode .dataSource (.ofElement binary) envelope = .ok (.data data) ↔
      ∃ bytes, binaryBytes binary envelope = .ok bytes ∧
        data = ⟨(binary.tag.attributes.get? "contentType").getD defaultContentType, bytes⟩ := by
  rw [decode, decodeData_ofElement named, binaryData]
  cases binaryBytes binary envelope with
  | error cause =>
    constructor
    · intro done
      cases done
    · rintro ⟨_, done, _⟩
      cases done
  | ok bytes =>
    constructor
    · intro done
      exact ⟨bytes, rfl, (Payload.data.inj (Except.ok.inj done)).symm⟩
    · rintro ⟨_, done, rfl⟩
      cases done
      rfl

/-- A `Binary` element that is decoded in an optimised message, all of whose references are found,
can be inlined. What it becomes is decoded to the same data exactly when the element has no
reference among its children, or has one and nothing next to the first adds a character. -/
theorem inlined_decodes_iff {envelope : Envelope} {binary : Element} {data : DataSource}
    (mtom : envelope.mtom = true) (named : isBinaryName binary.tag.name = true)
    (resolves : ∀ reference ∈ outermost isIncludeName binary.children,
      envelope.Resolves reference)
    (decoded : decode .dataSource (.ofElement binary) envelope = .ok (.data data)) :
    ∃ inlined, inlineNodes envelope binary.children = .ok inlined ∧
      (decode .dataSource (.ofElement ⟨binary.tag, inlined⟩) envelope = .ok (.data data) ↔
        binary.child? "Include" = none ∨ SoleReference envelope binary) := by
  obtain ⟨inlined, done⟩ := exists_inlineNodes_eq_ok mtom resolves
  obtain ⟨bytes, held, rfl⟩ := (decode_dataSource_eq_ok_iff named).1 decoded
  refine ⟨inlined, done, ?_⟩
  have spells : decode .dataSource (.ofElement ⟨binary.tag, inlined⟩) envelope = .ok (.data
      ⟨(binary.tag.attributes.get? "contentType").getD defaultContentType, bytes⟩) ↔
        Base64.decode? (String.join (binary.children.map (spelled envelope))).toList =
          some bytes := by
    rw [@decode_dataSource_eq_ok_iff ⟨binary.tag, inlined⟩ _ _ named, binaryBytes_inlined done]
    cases Base64.decode? (String.join (binary.children.map (spelled envelope))).toList with
    | none => simp
    | some read => simp [eq_comm]
  rw [spells]
  cases found : binary.child? "Include" with
  | none =>
    have others : ∀ child ∈ elementsOf binary.children, isIncludeName child.tag.name = false := by
      intro child member
      simpa [isIncludeName, Element.localName] using List.find?_eq_none.1 found child member
    rw [binaryBytes_of_unreferenced envelope found] at held
    rw [join_spelled_of_others envelope others]
    cases read : Base64.decode? (Text.removeBlanks (charactersOf binary.children)).toList with
    | none => rw [read] at held; cases held
    | some own => rw [read] at held; cases held; simp
  | some reference =>
    have resolved : resolveInclude reference envelope = .ok bytes := by
      rw [binaryBytes, found] at held
      exact held
    rw [decode?_toList_eq_some_iff, join_spelled_eq_iff found resolved]
    simp

/-! ## Elements with two references -/

/-- A `Binary` element with references to `a` and to `b`, and blank text in front of them. -/
def doubleNote : Element where
  tag := { name := "Binary" }
  children := [.text " ", (includeElement "a").toNode, (includeElement "b").toNode]

/-- An optimised message with attachments `a` and `b`; the former is not empty. -/
def messageWith (second : List UInt8) : Envelope where
  protocol := .soap11
  mtom := true
  attachments := [("a", ⟨"text/plain", [1, 2, 3]⟩), ("b", ⟨"text/plain", second⟩)]

/-- In a body the element stands for its first attachment. -/
theorem decode_doubleNote (second : List UInt8) :
    decode .dataSource (.ofElement doubleNote) (messageWith second) =
      .ok (.data ⟨defaultContentType, [1, 2, 3]⟩) := rfl

/-- Both references are found. -/
theorem resolves_doubleNote (second : List UInt8) :
    ∀ element ∈ elementsWithin doubleNote.children, (messageWith second).Resolves element := by
  intro element member
  have both : element ∈ [includeElement "a", includeElement "b"] := member
  rcases List.mem_cons.1 both with rfl | last
  · exact ⟨"cid:a", rfl, rfl⟩
  · rw [List.mem_singleton.1 last]
    exact ⟨"cid:b", rfl, rfl⟩

/-- In a whole message it stands for both, one behind the other. -/
theorem decode_inlined_doubleNote {inlined : List Node} {data : DataSource}
    (done : inlineNodes (messageWith [4]) doubleNote.children = .ok inlined)
    (decoded : decode .dataSource (.ofElement ⟨doubleNote.tag, inlined⟩) (messageWith [4]) =
      .ok (.data data)) : data.bytes = [1, 2, 3, 4] := by
  have texts : inlineNodes (messageWith [4]) doubleNote.children =
      .ok [.text " ", .text "AQID", .text "BA=="] := rfl
  have both : decode .dataSource
      (.ofElement ⟨doubleNote.tag, [.text " ", .text "AQID", .text "BA=="]⟩) (messageWith [4]) =
        .ok (.data ⟨defaultContentType, [1, 2, 3, 4]⟩) := rfl
  obtain rfl := Except.ok.inj (texts.symm.trans done)
  rw [← Payload.data.inj (Except.ok.inj (both.symm.trans decoded))]

/-- With nothing attached as `b` the element is read alike in both ways; with a byte attached there,
its first reference is not alone. -/
theorem inlined_decodes_iff_double :
    (∃ inlined, inlineNodes (messageWith []) doubleNote.children = .ok inlined ∧
      decode .dataSource (.ofElement ⟨doubleNote.tag, inlined⟩) (messageWith []) =
        .ok (.data ⟨defaultContentType, [1, 2, 3]⟩)) ∧
    ¬ SoleReference (messageWith [4]) doubleNote := by
  have resolves (second : List UInt8) : ∀ reference ∈ outermost isIncludeName doubleNote.children,
      (messageWith second).Resolves reference :=
    fun reference member => resolves_doubleNote second reference member
  constructor
  · obtain ⟨inlined, done, iff⟩ :=
      inlined_decodes_iff rfl rfl (resolves []) (decode_doubleNote [])
    refine ⟨inlined, done, iff.2 (.inr ⟨includeElement "a", [.text " "],
      [(includeElement "b").toNode], rfl, rfl, ?_⟩)⟩
    intro node member
    rcases List.mem_cons.1 member with rfl | last
    · exact rfl
    · rw [List.mem_singleton.1 last]
      rintro _ bytes found
      exact (Except.ok.inj found).symm
  · intro sole
    obtain ⟨inlined, done, iff⟩ :=
      inlined_decodes_iff rfl rfl (resolves [4]) (decode_doubleNote [4])
    exact absurd (decode_inlined_doubleNote done (iff.2 (.inr sole))) (by decide)

/-- So the two ways of reading need not agree. -/
theorem not_inlined_decodes :
    ¬ ∀ (envelope : Envelope) (binary : Element) (data : DataSource), envelope.mtom = true →
      isBinaryName binary.tag.name = true →
      (∀ element ∈ elementsWithin binary.children, isIncludeName element.tag.name = true →
        envelope.Resolves element) →
      decode .dataSource (.ofElement binary) envelope = .ok (.data data) →
      ∃ inlined, inlineNodes envelope binary.children = .ok inlined ∧
        decode .dataSource (.ofElement ⟨binary.tag, inlined⟩) envelope = .ok (.data data) := by
  intro claimed
  obtain ⟨inlined, done, decoded⟩ := claimed (messageWith [4]) doubleNote _ rfl rfl
    (fun element member _ => resolves_doubleNote [4] element member) (decode_doubleNote [4])
  exact absurd (decode_inlined_doubleNote done decoded) (by decide)

end SoapDispatch.Codec
