import SoapDispatch.Proofs.Scanning

/-!
# Tags and text as they are written

What the writer makes of names, attributes and character data is taken in by the reader as what it
was made from. A start tag opens an element whose name and attributes are those that were written,
an end tag closes it, and text between tags ends up in the run of characters, whatever marks are in
it. Values and text have to consist of characters that a document of version 1.0 admits.
-/

namespace SoapDispatch.Xml

/-! ## Characters as they are -/

/-- Characters that make no end of a tag or of a section of what stands in front of them. -/
def Unclosing (chars : List Char) : Prop :=
  chars.head? ≠ some '>' ∧ chars.take 2 ≠ [']', '>']

/-- There is no end where the next mark is another one. -/
theorem unclosing_of_notMem {front rest : List Char} {mark : Char} (none : '>' ∉ front)
    (other : mark = '<' ∨ mark = '"') : Unclosing (front ++ mark :: rest) := by
  have noEnd : mark ≠ '>' ∧ mark ≠ ']' := by rcases other with rfl | rfl <;> decide
  rcases front with _ | ⟨c, _ | ⟨d, front⟩⟩
  · simp [Unclosing, noEnd]
  · simp only [List.mem_singleton] at none
    simp [Unclosing, noEnd, Ne.symm none]
  · simp only [List.mem_cons, not_or] at none
    simp [Unclosing, Ne.symm none.1, Ne.symm none.2.1]

/-- In front of them, every character but one is the token that it is by itself. -/
theorem Context.read_of_unclosing {c : Char} {rest : List Char} (noTag : c ≠ '<')
    (unclosing : Unclosing rest) :
    ({} : Context).read (c :: rest) = .ok (.ofChar c, {}, rest) := by
  have ordinary : ({} : Context).read (c :: rest) = ({} : Context).readContent (c :: rest) := rfl
  rw [ordinary]
  unfold Context.readContent
  split
  case h_1 same =>
    cases same
    exact absurd rfl noTag
  case h_2 same =>
    cases same
    exact absurd rfl unclosing.1
  case h_3 same =>
    cases same
    exact absurd rfl unclosing.2
  case h_4 same =>
    cases same
    rfl
  case h_5 none => cases none

/-- Text as it is written has no end of a tag in it. -/
theorem notMem_flatMap_escapeText (content : List Char) : '>' ∉ content.flatMap escapeText := by
  intro member
  obtain ⟨c, _, inside⟩ := List.mem_flatMap.1 member
  rcases escapeText_cases c with ⟨raw, same⟩ | ⟨name, denotes, same⟩
  · rw [same, List.mem_singleton] at inside
    subst inside
    simp at raw
  · simp only [same, List.mem_cons, List.mem_append, List.not_mem_nil, or_false] at inside
    rcases inside with amp | own | semicolon
    · exact absurd amp (by decide)
    · exact denotes.plain _ own (by decide)
    · exact absurd semicolon (by decide)

/-- Nor has a value. -/
theorem notMem_flatMap_escapeValue (value : List Char) : '>' ∉ value.flatMap escapeValue := by
  intro member
  obtain ⟨c, _, inside⟩ := List.mem_flatMap.1 member
  rcases escapeValue_cases c with ⟨raw, same⟩ | ⟨name, denotes, same⟩
  · rw [same, List.mem_singleton] at inside
    subst inside
    simp at raw
  · simp only [same, List.mem_cons, List.mem_append, List.not_mem_nil, or_false] at inside
    rcases inside with amp | own | semicolon
    · exact absurd amp (by decide)
    · exact denotes.plain _ own (by decide)
    · exact absurd semicolon (by decide)

/-! ## Readers -/

namespace Reader

/-- A reader of a document of version 1.0 without entities. -/
def amid (encoding : Option String) (stage : Stage) (builder : Builder) (construct : Construct) :
    Reader where
  construct
  stage
  encoding
  builder

variable {encoding : Option String} {stage : Stage} {builder : Builder}

/-- A token between constructs is taken into text or starts the next construct. -/
theorem step_content (token : Token) : (amid encoding stage builder .content).step token =
    ((amid encoding stage builder .content).stepContent token).map (·, []) := by
  simp only [step, amid]
  rfl

/-- A start tag that is taken further leaves the reader in it. -/
theorem step_startTag_of_more {tag next : PartialStartTag} {token : Token}
    (stepped : tag.step .v10 [] token = .ok (.more next)) :
    (amid encoding stage builder (.startTag tag)).step token =
      .ok (amid encoding stage builder (.startTag next), []) := by
  simp only [step, amid, stepped]
  rfl

/-- A start tag that is complete opens an element. -/
theorem step_startTag_of_done {tag : PartialStartTag} {start : StartTag} {token : Token}
    (stepped : tag.step .v10 [] token = .ok (.done start)) :
    (amid encoding stage builder (.startTag tag)).step token =
      ((builder.openElement start).map (amid encoding stage · .content)).map (·, []) := by
  simp only [step, amid, stepped]
  simp only [bind, Except.bind]
  cases builder.openElement start <;> rfl

end Reader

/-! ## Values -/

namespace PartialValue

/-- A value between double quotes, of which the characters have been read. -/
abbrev behind (chars : List Char) : PartialValue := .opened .double chars.reverse

/-- A character that is written as it is belongs to the value. -/
theorem push_ofChar {c : Char} {front : List Char} (raw : c ∉ ['&', '<', '>', '"', '\''])
    (legible : Version.v10.admits c = true) :
    push .v10 .double front.reverse (.ofChar c) = .ok (.more (behind (front ++ [c]))) := by
  have literal : Version.v10.admitsLiteral c = true := legible
  simp only [List.mem_cons, List.not_mem_nil, or_false, not_or] at raw
  obtain ⟨noAmp, noLt, noGt, noQuote, noApos⟩ := raw
  unfold Token.ofChar
  split
  all_goals unfold push
  case h_7 => simp [literal, behind]
  all_goals simp_all [behind, Token.spelling]

end PartialValue

namespace Reader

variable {encoding : Option String} {stage : Stage} {builder : Builder}

/-- A reader in a value of a start tag. -/
abbrev inValue (encoding : Option String) (stage : Stage) (builder : Builder)
    (tag : PartialStartTag) (key : QName) (value : PartialValue) : Reader :=
  amid encoding stage builder (.startTag { tag with position := .value key value })

/-- A reference in a value gives the character it denotes. -/
theorem reads_valueReference (tag : PartialStartTag) (key : QName) (front : List Char)
    {name : List Char} {c : Char} (denotes : Reference.Denotes name c) :
    (inValue encoding stage builder tag key (.behind front)).Reads ('&' :: (name ++ [';']))
      (inValue encoding stage builder tag key (.behind (front ++ [c]))) := by
  let place (name : List Char) : Reader :=
    inValue encoding stage builder tag key (.reference .double front.reverse name)
  have start : (inValue encoding stage builder tag key (.behind front)).Reads ['&'] (place []) :=
    .token _ (fun _ => rfl) (step_startTag_of_more rfl)
  have inside : (place []).Reads name (place name.reverse) := by
    refine Reads.scan place (fun _ => rfl) (fun c _ state next pushed => ?_) denotes.plain denotes.read
    rw [Reference.push] at pushed
    split at pushed
    · next admitted =>
      cases pushed
      refine step_startTag_of_more ?_
      unfold PartialStartTag.step PartialValue.step
      simp [admitted, bind, Except.bind]
    · cases pushed
  have ending : (place name.reverse).Reads [';']
      (inValue encoding stage builder tag key (.behind (front ++ [c]))) := by
    refine .token .referenceEnd (fun _ => rfl) (step_startTag_of_more ?_)
    unfold PartialStartTag.step PartialValue.step
    simp [denotes.known, PartialValue.inserted, bind, Except.bind]
  exact start.trans (inside.trans ending)

/-- A value is read up to its closing mark. -/
theorem reads_value (tag : PartialStartTag) (key : QName) (front : List Char) {value : List Char}
    (legible : ∀ c ∈ value, Version.v10.admits c = true) :
    (inValue encoding stage builder tag key (.behind front)).Reads
      (value.flatMap escapeValue ++ ['"'])
      (amid encoding stage builder (.startTag { tag with
        position := .valued
        attributes := (key, String.ofList (front ++ value)) :: tag.attributes })) := by
  induction value generalizing front with
  | nil =>
    refine .token (.quote .double) (fun _ => rfl) (step_startTag_of_more ?_)
    unfold PartialStartTag.step PartialValue.step PartialValue.push
    simp [bind, Except.bind]
  | cons c rest inductionHypothesis =>
    have others := inductionHypothesis (front ++ [c])
      fun other member => legible other (List.mem_cons_of_mem c member)
    rw [List.append_assoc, List.singleton_append] at others
    rw [List.flatMap_cons, List.append_assoc]
    rcases escapeValue_cases c with ⟨raw, same⟩ | ⟨name, denotes, same⟩
    · rw [same]
      intro behind
      have noTag : c ≠ '<' := by
        rintro rfl
        simp at raw
      have closing : Unclosing (rest.flatMap escapeValue ++ '"' :: behind) :=
        unclosing_of_notMem (notMem_flatMap_escapeValue rest) (.inr rfl)
      have taken : (inValue encoding stage builder tag key (.behind front)).run
          { chars := c :: (rest.flatMap escapeValue ++ '"' :: behind) } =
          (inValue encoding stage builder tag key (.behind (front ++ [c]))).run
            { chars := rest.flatMap escapeValue ++ '"' :: behind } := by
        refine run_token _ (.ok _) (Context.read_of_unclosing noTag closing)
          (step_startTag_of_more ?_)
        have pushed := @PartialValue.push_ofChar _ front raw
          (legible c (List.mem_cons_self ..))
        unfold PartialStartTag.step PartialValue.step
        simp only [pushed, bind, Except.bind]
      have later := others behind
      rw [List.append_assoc, List.singleton_append] at later
      rw [List.append_assoc, List.append_assoc, List.singleton_append, List.singleton_append, taken,
        later]
    · rw [same]
      exact (reads_valueReference tag key front denotes).trans others

end Reader

/-! ## Attributes -/

/-- The name that characters spell. -/
def QName.ofSpelling (chars : List Char) : QName :=
  (ofChars? chars).getD { base := "" }

/-- An attribute or a namespace declaration as it is read. -/
def readPair (pair : String × String) : QName × String :=
  (.ofSpelling pair.1.toList, pair.2)

/-- A pair that can be read: its key is a name that starts in ASCII, and its value may stand in a
document. -/
structure LegiblePair (pair : String × String) : Prop where
  spelled : (QName.ofSpelling pair.1.toList).SpelledBy pair.1.toList
  ascii : ∀ c ∈ pair.1.toList.head?, c.toNat < 0x80
  value : ∀ c ∈ pair.2.toList, Version.v10.admits c = true

/-- A start tag of which the name and some attributes have been read, the last one first. -/
structure PartialStartTag.Behind (tag : PartialStartTag) (name : QName)
    (attributes : List (QName × String)) : Prop where
  spaced : ∃ divided, tag.step .v10 [] (.character ' ') =
    .ok (.more { position := .spaced, name, attributes, divided })
  closed : tag.step .v10 [] .tagEnd =
    .ok (.done { name, attributes := attributes.reverse, empty := false })

namespace PartialStartTag

/-- A start tag behind a value. -/
theorem behind_valued (name : QName) (attributes : List (QName × String)) (divided : Bool) :
    Behind { position := .valued, name, attributes, divided } name attributes where
  spaced := ⟨divided, rfl⟩
  closed := rfl

/-- A start tag behind its name. -/
theorem behind_name {name : QName} {chars : List Char} (spelled : name.SpelledBy chars)
    (unreserved : isReserved name.qualifier = false) :
    Behind { position := .name (.ofSpelling chars) } name [] := by
  have named : named { position := .name (.ofSpelling chars) } (.ofSpelling chars) =
      .ok { position := .spaced, name, divided := (PartialName.ofSpelling chars).divided } := by
    simp only [named, PartialName.complete_ofSpelling spelled, bind, Except.bind, unreserved]
    rfl
  constructor
  · refine ⟨(PartialName.ofSpelling chars).divided, ?_⟩
    have space : isSpace ' ' = true := by decide
    simp only [step, space, if_true, named, bind, Except.bind]
  · simp only [step, named, bind, Except.bind, close]

end PartialStartTag

namespace Reader

variable {encoding : Option String} {stage : Stage} {builder : Builder} {name : QName}
  {attributes : List (QName × String)}

/-- An attribute is read behind the name of the tag or behind another attribute. -/
theorem reads_attribute {tag : PartialStartTag} (behind : tag.Behind name attributes)
    {pair : String × String} (legible : LegiblePair pair) :
    ∃ next, (amid encoding stage builder (.startTag tag)).Reads (writeAttribute pair)
      (amid encoding stage builder (.startTag next)) ∧
        next.Behind name (readPair pair :: attributes) := by
  obtain ⟨divided, spaced⟩ := behind.spaced
  obtain ⟨first, rest, shape, start, _⟩ := legible.spelled.exists_cons
  let tag' : PartialStartTag := { position := .spaced, name, attributes, divided }
  let place (part : PartialName) : Reader :=
    amid encoding stage builder (.startTag { tag' with position := .attribute part })
  let key : QName := .ofSpelling pair.1.toList
  let behindKey : PartialStartTag :=
    { tag' with divided := (PartialName.ofSpelling pair.1.toList).divided }
  have legalFirst : isNameChar first = true := by
    rw [isNameChar, Bool.or_eq_true]
    exact .inl start
  have space : (amid encoding stage builder (.startTag tag)).Reads [' ']
      (amid encoding stage builder (.startTag tag')) :=
    .token (.character ' ') (fun _ => rfl) (step_startTag_of_more spaced)
  have opening : (amid encoding stage builder (.startTag tag')).Reads [first]
      (place { chars := [first] }) := by
    refine .token (.character first) (Context.read_plain (plain_of_isNameChar legalFirst).1)
      (step_startTag_of_more ?_)
    have ascii : first.toNat < 0x80 := legible.ascii first (by rw [shape]; rfl)
    have continuing : PartialName.continuing first divided = { chars := [first] } := by
      simp [PartialName.continuing, Nat.not_le.2 ascii]
    simp only [tag', PartialStartTag.step, (plain_of_isNameChar legalFirst).2, start, if_true,
      Bool.false_eq_true, if_false, continuing]
  have others : (place { chars := [first] }).Reads rest (place (.ofSpelling pair.1.toList)) := by
    have legal (c : Char) (member : c ∈ rest) : isNameChar c = true :=
      legible.spelled.legal c (shape ▸ List.mem_cons_of_mem first member)
    refine Reads.scan place (fun _ => rfl) (fun c member state next pushed => ?_)
      (fun c member => (plain_of_isNameChar (legal c member)).1)
      (shape ▸ PartialName.foldlM_push_first (shape ▸ legible.spelled))
    refine step_startTag_of_more ?_
    simp only [tag', PartialStartTag.step, (plain_of_isNameChar (legal c member)).2, pushed, bind,
      Except.bind, Bool.false_eq_true, if_false]
  have equals : (place (.ofSpelling pair.1.toList)).Reads ['=']
      (inValue encoding stage builder behindKey key .unopened) := by
    refine .token .equals (fun _ => rfl) (step_startTag_of_more ?_)
    simp only [tag', PartialStartTag.step, PartialStartTag.attributeNamed,
      PartialName.complete_ofSpelling legible.spelled, bind, Except.bind]
    rfl
  have quote : (inValue encoding stage builder behindKey key .unopened).Reads ['"']
      (inValue encoding stage builder behindKey key (.behind [])) :=
    .token _ (fun _ => rfl) (step_startTag_of_more rfl)
  have value := @reads_value encoding stage builder behindKey key [] _ legible.value
  refine ⟨_, ?_, PartialStartTag.behind_valued name _ behindKey.divided⟩
  have written : writeAttribute pair = [' '] ++ ([first] ++ (rest ++ (['='] ++ (['"'] ++
      (pair.2.toList.flatMap escapeValue ++ ['"']))))) := by
    simp [writeAttribute, shape]
  rw [written]
  simpa [readPair] using
    space.trans (opening.trans (others.trans (equals.trans (quote.trans value))))

/-- Attributes are read one after the other. -/
theorem reads_attributes {tag : PartialStartTag} (behind : tag.Behind name attributes)
    {pairs : List (String × String)} (legible : ∀ pair ∈ pairs, LegiblePair pair) :
    ∃ next, (amid encoding stage builder (.startTag tag)).Reads (pairs.flatMap writeAttribute)
      (amid encoding stage builder (.startTag next)) ∧
        next.Behind name ((pairs.map readPair).reverse ++ attributes) := by
  induction pairs generalizing tag attributes with
  | nil => exact ⟨tag, .refl _, behind⟩
  | cons pair rest inductionHypothesis =>
    obtain ⟨next, first, reached⟩ :=
      @reads_attribute encoding stage builder _ _ _ behind _
        (legible pair (List.mem_cons_self ..))
    obtain ⟨last, others, ended⟩ := inductionHypothesis reached
      fun other member => legible other (List.mem_cons_of_mem pair member)
    refine ⟨last, first.trans others, ?_⟩
    simpa using ended

end Reader

/-! ## Tags -/

namespace Tag

/-- The namespace declarations and attributes that are written in a start tag. -/
def writtenPairs (tag : Tag) (declared : Bindings) : List (String × String) :=
  (tag.newBindings declared).map
      (fun binding => (if binding.1 = "" then "xmlns" else "xmlns:" ++ binding.1, binding.2)) ++
    tag.attributes

/-- The name that is read for a tag. -/
def readName (tag : Tag) : QName :=
  .ofSpelling tag.writtenName

/-- The start tag that is read where a tag is written. -/
def readStart (tag : Tag) (declared : Bindings) (empty : Bool) : StartTag where
  name := tag.readName
  attributes := (tag.writtenPairs declared).map readPair
  empty

/-- A tag that can be read: with a name that no reserved qualifier is in, and legible pairs. -/
structure Legible (tag : Tag) : Prop where
  spelled : tag.readName.SpelledBy tag.writtenName
  unreserved : PartialStartTag.isReserved tag.readName.qualifier = false
  pairs : ∀ pair ∈ tag.writtenPairs [], LegiblePair pair

/-- What has been declared already need not be declared, so it is no less legible. -/
theorem Legible.writtenPairs {tag : Tag} (legible : tag.Legible) (declared : Bindings) :
    ∀ pair ∈ tag.writtenPairs declared, LegiblePair pair := by
  intro pair member
  refine legible.pairs pair ?_
  rw [Tag.writtenPairs, List.mem_append, List.mem_map] at member ⊢
  refine member.imp_left fun ⟨binding, new, same⟩ => ⟨binding, ?_, same⟩
  rw [newBindings, List.mem_filter] at new ⊢
  exact ⟨new.1, rfl⟩

/-- A start tag is its name and its pairs, up to what closes it. -/
theorem writeOpening_eq (tag : Tag) (declared : Bindings) : tag.writeOpening declared =
    ['<'] ++ (tag.writtenName ++ (tag.writtenPairs declared).flatMap writeAttribute) := by
  have bindings : (tag.newBindings declared).flatMap writeBinding =
      ((tag.newBindings declared).map fun binding =>
        (if binding.1 = "" then "xmlns" else "xmlns:" ++ binding.1, binding.2)).flatMap
          writeAttribute := by
    rw [List.flatMap_map]
    rfl
  simp [writeOpening, Tag.writtenPairs, bindings]

end Tag

namespace Reader

variable {encoding : Option String} {stage : Stage} {builder : Builder} {tag : Tag}

/-- A start tag is met by a name. -/
theorem run_tagStart {first : Char} (start : isNameStart first = true) (rest : List Char) :
    (amid encoding stage builder .content).run { chars := '<' :: first :: rest } =
      (amid encoding .root builder.flush (.startTag {})).run { chars := first :: rest } := by
  have legal : isNameChar first = true := by
    rw [isNameChar, Bool.or_eq_true]
    exact .inl start
  have taken : ({} : Context).read ('<' :: first :: rest) =
      .ok (.tagStart, {}, first :: rest) := by
    have markup : ({} : Context).read ('<' :: first :: rest) =
        ({} : Context).readMarkup (first :: rest) := rfl
    rw [markup]
    unfold Context.readMarkup
    split
    case h_7 same =>
      cases same
      simp only [legal, Bool.or_true, if_true]
      rfl
    case h_8 none => cases none
    all_goals
      rename_i same
      cases same
      exact absurd start (by decide)
  exact run_token .tagStart (.ok _) taken rfl

/-- The name of a start tag is read. -/
theorem reads_startName {name : QName} {chars : List Char} (spelled : name.SpelledBy chars) :
    (amid encoding stage builder (.startTag {})).Reads chars
      (amid encoding stage builder (.startTag { position := .name (.ofSpelling chars) })) := by
  let place (part : PartialName) : Reader :=
    amid encoding stage builder (.startTag { position := .name part })
  refine Reads.scan place (fun _ => rfl) (fun c member state next pushed => ?_)
    (fun c member => (plain_of_isNameChar (spelled.legal c member)).1)
    (PartialName.foldlM_push_spelled spelled)
  refine step_startTag_of_more ?_
  simp only [PartialStartTag.step, (plain_of_isNameChar (spelled.legal c member)).2, pushed, bind,
    Except.bind, Bool.false_eq_true, if_false]

/-- A start tag opens an element, which the run of text before it has ended. -/
theorem run_writeOpening (legible : tag.Legible) (declared : Bindings) (empty : Bool)
    (rest : List Char) : (amid encoding stage builder .content).run
      { chars := tag.writeOpening declared ++ ((if empty then [' ', '/', '>'] else ['>']) ++ rest) } =
    (builder.flush.openElement (tag.readStart declared empty)).bind fun builder =>
      (amid encoding .root builder .content).run { chars := rest } := by
  obtain ⟨first, others, shape, start, _⟩ := legible.spelled.exists_cons
  obtain ⟨last, pairs, behind⟩ := @reads_attributes encoding .root builder.flush _ _ _
    (PartialStartTag.behind_name legible.spelled legible.unreserved) _
    (legible.writtenPairs declared)
  have closing (tag' : PartialStartTag) (token : Token) {chars : List Char}
      (taken : ({} : Context).read chars = .ok (token, {}, rest))
      (done : tag'.step .v10 [] token = .ok (.done (tag.readStart declared empty))) :
      (amid encoding .root builder.flush (.startTag tag')).run { chars } =
        (builder.flush.openElement (tag.readStart declared empty)).bind fun builder =>
          (amid encoding .root builder .content).run { chars := rest } := by
    rw [run_token token ((builder.flush.openElement (tag.readStart declared empty)).map
      (amid encoding .root · .content)) taken (step_startTag_of_done done)]
    cases builder.flush.openElement (tag.readStart declared empty) <;> rfl
  rw [Tag.writeOpening_eq, List.append_assoc, List.append_assoc, List.singleton_append, shape,
    List.cons_append, run_tagStart start, ← List.cons_append, ← shape,
    reads_startName legible.spelled, pairs]
  rw [List.append_nil] at behind
  cases empty with
  | false =>
    refine closing last .tagEnd rfl ?_
    rw [behind.closed, List.reverse_reverse]
    rfl
  | true =>
    obtain ⟨divided, spaced⟩ := behind.spaced
    let last' : PartialStartTag :=
      { position := .spaced
        name := tag.readName
        attributes := ((tag.writtenPairs declared).map readPair).reverse
        divided }
    have space : (amid encoding .root builder.flush (.startTag last)).Reads [' ']
        (amid encoding .root builder.flush (.startTag last')) :=
      .token (.character ' ') (fun _ => rfl) (step_startTag_of_more spaced)
    have shown : (if true = true then [' ', '/', '>'] else ['>']) ++ rest =
        [' '] ++ ('/' :: '>' :: rest) := rfl
    rw [shown, space]
    refine closing last' .emptyTagEnd rfl ?_
    simp only [last', PartialStartTag.step, PartialStartTag.close, List.reverse_reverse]
    rfl

/-- An end tag closes the innermost element, which the run of text before it has ended. -/
theorem run_writeClosing (legible : tag.Legible) (inside : builder.opened ≠ []) (rest : List Char) :
    (amid encoding .root builder .content).run { chars := tag.writeClosing ++ rest } =
      (builder.flush.closeElement tag.readName).bind fun builder =>
        (amid encoding .root builder .content).run { chars := rest } := by
  let place (part : PartialName) : Reader :=
    amid encoding .root builder.flush (.endTag (.name part))
  have start : (amid encoding .root builder .content).Reads ['<', '/'] (place {}) := by
    refine .token .endTagStart (fun _ => rfl) ?_
    have here : (amid encoding .root builder .content).outside = false :=
      List.isEmpty_eq_false_iff.2 inside
    rw [step_content]
    unfold stepContent
    simp only [here]
    rfl
  have name : (place {}).Reads tag.writtenName (place (.ofSpelling tag.writtenName)) := by
    refine Reads.scan place (fun _ => rfl) (fun c member state next pushed => ?_)
      (fun c member => (plain_of_isNameChar (legible.spelled.legal c member)).1)
      (PartialName.foldlM_push_spelled legible.spelled)
    have noSpace := (plain_of_isNameChar (legible.spelled.legal c member)).2
    simp only [place, step, amid, PartialEndTag.step, noSpace, pushed, bind, Except.bind,
      Bool.false_eq_true, if_false]
  have written : tag.writeClosing ++ rest = ['<', '/'] ++ (tag.writtenName ++ '>' :: rest) := by
    simp [Tag.writeClosing]
  rw [written, start, name]
  have ending : (place (.ofSpelling tag.writtenName)).step .tagEnd =
      ((builder.flush.closeElement tag.readName).map (amid encoding .root · .content)).map
        (·, []) := by
    simp only [place, step, amid, PartialEndTag.step,
      PartialName.complete_ofSpelling legible.spelled, bind, Except.bind]
    cases builder.flush.closeElement tag.readName <;> rfl
  rw [run_token .tagEnd _ rfl ending]
  cases builder.flush.closeElement tag.readName <;> rfl

/-! ## Text -/

/-- A reference in text gives the character it denotes. -/
theorem reads_textReference (inside : builder.opened ≠ []) {name : List Char} {c : Char}
    (denotes : Reference.Denotes name c) :
    (amid encoding .root builder .content).Reads ('&' :: (name ++ [';']))
      (amid encoding .root (builder.addCharacter c) .content) := by
  let place (name : List Char) : Reader := amid encoding .root builder (.reference name)
  have start : (amid encoding .root builder .content).Reads ['&'] (place []) := by
    refine .token .referenceStart (fun _ => rfl) ?_
    have here : (amid encoding .root builder .content).outside = false :=
      List.isEmpty_eq_false_iff.2 inside
    rw [step_content]
    unfold stepContent
    simp only [here]
    rfl
  have within : (place []).Reads name (place name.reverse) := by
    refine Reads.scan place (fun _ => rfl) (fun c _ state next pushed => ?_) denotes.plain denotes.read
    rw [Reference.push] at pushed
    split at pushed
    · next admitted =>
      cases pushed
      simp only [place, step, amid]
      unfold stepReference
      simp only [admitted, if_true]
    · cases pushed
  have ending : (place name.reverse).Reads [';']
      (amid encoding .root (builder.addCharacter c) .content) := by
    refine .token .referenceEnd (fun _ => rfl) ?_
    simp only [place, step, amid]
    unfold stepReference
    simp only [List.reverse_reverse, denotes.known, bind, Except.bind]
    rfl
  exact start.trans (within.trans ending)

/-- A delimiter of one visible character counts as that character. -/
theorem addSpelling_eq_addCharacter (builder : Builder) {token : Token} {c : Char}
    (spelling : token.spelling = [c]) (visible : isSpace c = false) :
    builder.addSpelling token = builder.addCharacter c := by
  simp [Builder.addSpelling, Builder.addCharacter, spelling, visible]

/-- A character that is written as it is belongs to the run of text. -/
theorem step_ofChar (inside : builder.opened ≠ []) {c : Char} (raw : c ∉ ['&', '<', '>'])
    (legible : Version.v10.admits c = true) :
    (amid encoding .root builder .content).step (.ofChar c) =
      .ok (amid encoding .root (builder.addCharacter c) .content, []) := by
  have here : (amid encoding .root builder .content).outside = false :=
    List.isEmpty_eq_false_iff.2 inside
  have literal : (amid encoding .root builder .content).version.admitsLiteral c = true := legible
  rw [step_content]
  unfold Token.ofChar
  split
  all_goals unfold stepContent
  case h_1 => simp at raw
  case h_5 => simp at raw
  case h_7 =>
    simp only [here, literal]
    rfl
  all_goals
    simp only [here, Bool.false_eq_true, if_false]
    rw [addSpelling_eq_addCharacter _ rfl (by decide)]
    rfl

/-- Text is read up to the next tag. -/
theorem run_escapeText (inside : builder.opened ≠ []) {content : List Char}
    (legible : ∀ c ∈ content, Version.v10.admits c = true) (rest : List Char) :
    (amid encoding .root builder .content).run
        { chars := content.flatMap escapeText ++ '<' :: rest } =
      (amid encoding .root (content.foldl Builder.addCharacter builder) .content).run
        { chars := '<' :: rest } := by
  induction content generalizing builder with
  | nil => rfl
  | cons c others inductionHypothesis =>
    have later := @inductionHypothesis (builder.addCharacter c) inside
      fun other member => legible other (List.mem_cons_of_mem c member)
    rw [List.flatMap_cons, List.append_assoc, List.foldl_cons, ← later]
    rcases escapeText_cases c with ⟨raw, same⟩ | ⟨name, denotes, same⟩
    · have noTag : c ≠ '<' := by
        rintro rfl
        simp at raw
      rw [same, List.singleton_append]
      exact run_token _ (.ok _)
        (Context.read_of_unclosing noTag
          (unclosing_of_notMem (notMem_flatMap_escapeText others) (.inl rfl)))
        (step_ofChar inside raw (legible c (List.mem_cons_self ..)))
    · rw [same]
      exact reads_textReference inside denotes _

end Reader

end SoapDispatch.Xml
