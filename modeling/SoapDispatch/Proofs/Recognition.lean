import SoapDispatch.Proofs.Reading
import SoapDispatch.Proofs.RoundTrip

/-!
# Recognised documents

A text is put into a body as the element that it is the document of, if it is one. Before it is
parsed, its first visible character is looked at, and parsing is left out unless that is `<`. As
nothing but white space can stand in front of the first markup of a document
(`Reader.head?_of_finish`), this withholds from the parser only what it would refuse, unless the
text begins with a byte order mark, which the parser passes over and which is no white space.
-/

namespace SoapDispatch

open SoapDispatch.Soap SoapDispatch.Xml

/-! ## Byte order marks -/

/-- The character that a byte order mark is. -/
def Text.byteOrderMark : Char := '\uFEFF'

/-- A text behind a byte order mark. -/
def Text.mark (text : String) : String :=
  String.ofList [byteOrderMark] ++ text

/-- Whether a text begins with a byte order mark. -/
def Text.isMarked (text : String) : Bool :=
  text.toList.head? == some byteOrderMark

/-- The characters of a marked text are the mark and those of the text. -/
@[simp] theorem Text.toList_mark (text : String) :
    (mark text).toList = byteOrderMark :: text.toList := by
  simp [mark]

/-- A text begins with a byte order mark exactly when it is another text behind one. -/
theorem Text.isMarked_iff {text : String} : isMarked text = true ↔ ∃ rest, text = mark rest := by
  rw [isMarked, beq_iff_eq, List.head?_eq_some_iff]
  constructor
  · rintro ⟨rest, shape⟩
    refine ⟨String.ofList rest, String.toList_inj.1 ?_⟩
    rw [toList_mark, String.toList_ofList, shape]
  · rintro ⟨rest, rfl⟩
    exact ⟨rest.toList, toList_mark rest⟩

namespace Text.Utf8

/-- The bytes of a marked text are those of the mark and those of the text. -/
theorem encode_mark (text : String) :
    encode (mark text) = 0xEF :: 0xBB :: 0xBF :: encode text := by
  rw [mark, encode_append]
  rfl

/-- A text whose bytes begin with those of another begins with the other. -/
theorem exists_of_encode_eq {front text : String} {bytes : List UInt8}
    (begins : encode text = encode front ++ bytes) :
    ∃ rest, text.toList = front.toList ++ rest := by
  have same : front.toList.utf8Encode ++ ⟨bytes.toArray⟩ = text.toList.utf8Encode := by
    rw [String.utf8Encode_toList, String.utf8Encode_toList]
    apply ByteArray.ext
    apply Array.ext'
    simpa [encode] using begins.symm
  obtain ⟨rest, split⟩ := List.isPrefix_of_utf8Encode_append_eq_utf8Encode _ same
  exact ⟨rest, split.symm⟩

/-- The first byte of a text is one that UTF-8 allows at the start of a character. -/
theorem isUTF8FirstByte_of_encode {text : String} {byte : UInt8} {rest : List UInt8}
    (bytes : encode text = byte :: rest) : byte.IsUTF8FirstByte := by
  have shape : text.toByteArray = ⟨(byte :: rest).toArray⟩ := by
    rw [← bytes, encode, Array.toArray_toList]
  have valid := text.isValidUTF8
  rw [shape] at valid
  exact valid.isUTF8FirstByte_getElem_zero (by simp [ByteArray.size])

/-- The bytes of a text only have the mark of UTF-8, and only if the text has it. -/
theorem marked?_encode {text : String} (plain : isMarked text = false) :
    Encoding.marked? (encode text) = none := by
  unfold Encoding.marked?
  split
  · next rest bytes =>
    obtain ⟨rest, split⟩ := @exists_of_encode_eq (String.ofList [byteOrderMark]) text rest bytes
    simp [isMarked, split] at plain
  · next bytes => exact absurd (isUTF8FirstByte_of_encode bytes) (by decide)
  · next bytes => exact absurd (isUTF8FirstByte_of_encode bytes) (by decide)
  · rfl

end Text.Utf8

/-! ## The front of a document -/

namespace Xml

/-- Outside of every element a visible character is refused. -/
theorem Reader.step_of_visible {stage : Stage} {c : Char} (visible : isSpace c = false) :
    ({ stage } : Reader).step (.character c) = .error .outsideRoot := by
  have outside : ({ stage } : Reader).outside = true := rfl
  have refused : ({ stage } : Reader).stepContent (.character c) = .error .outsideRoot := by
    unfold stepContent
    dsimp only
    rw [if_pos outside, visible, if_neg Bool.false_ne_true]
  simp only [step, refused]
  rfl

/-- Outside of every element only white space can stand in front of markup. -/
theorem Reader.run_of_visible {stage : Stage} {c : Char} {rest : List Char}
    (visible : isSpace c = false) (text : c ≠ '<') :
    ∃ cause, ({ stage } : Reader).run { chars := c :: rest } = .error cause := by
  have taken : ∃ token behind, ({} : Context).read (c :: rest) = .ok (token, {}, behind) ∧
      ∃ cause, ({ stage } : Reader).step token = .error cause := by
    simp only [Context.read, Bool.false_eq_true, if_false, Context.readContent]
    split
    · next same => exact absurd (List.cons.inj same).1 text
    · exact ⟨.emptyTagEnd, _, rfl, .outsideRoot, rfl⟩
    · exact ⟨.cdataEnd, _, rfl, .strayCdataEnd, rfl⟩
    · next same =>
      cases same
      refine ⟨.ofChar c, _, rfl, .outsideRoot, ?_⟩
      unfold Token.ofChar
      split
      case h_7 => exact step_of_visible visible
      all_goals rfl
    · next empty => exact nomatch empty
  obtain ⟨token, behind, taken, cause, refused⟩ := taken
  refine ⟨cause, ?_⟩
  rw [run_of_more rfl, taken]
  simp only [Except.bind, refused]

/-- White space outside of every element is passed over. -/
theorem Reader.run_of_isSpace {stage : Stage} {c : Char} {rest : List Char}
    (space : isSpace c = true) :
    ({ stage } : Reader).run { chars := c :: rest } =
      ({ stage := if stage = .start then .prolog else stage } : Reader).run { chars := rest } := by
  simp only [isSpace, Bool.or_eq_true, beq_iff_eq] at space
  rcases space with ((rfl | rfl) | rfl) | rfl <;> exact run_of_step rfl rfl rfl rfl

/-- White space of the grammar is blank. -/
theorem isBlankChar_of_isSpace {c : Char} (space : isSpace c = true) :
    Text.isBlankChar c = true := by
  simp only [isSpace, Bool.or_eq_true, beq_iff_eq] at space
  rcases space with ((rfl | rfl) | rfl) | rfl <;> decide

/-- Where a document is read to its end, its first visible character is the start of markup. -/
theorem Reader.head?_of_finish {stage : Stage} {chars : List Char} {last : Reader}
    {element : Element} (ran : ({ stage } : Reader).run { chars } = .ok last)
    (finished : last.finish = .ok element) :
    (chars.dropWhile Text.isBlankChar).head? = some '<' := by
  induction chars generalizing stage with
  | nil =>
    rw [run_of_isEmpty rfl] at ran
    cases ran
    exact nomatch finished
  | cons c rest inductionHypothesis =>
    by_cases markup : c = '<'
    · subst markup
      rfl
    · cases space : isSpace c with
      | true =>
        rw [run_of_isSpace space] at ran
        rw [List.dropWhile_cons_of_pos (isBlankChar_of_isSpace space)]
        exact inductionHypothesis ran
      | false =>
        obtain ⟨cause, refused⟩ := @run_of_visible stage c rest space markup
        rw [refused] at ran
        exact nomatch ran

/-! ## Documents behind a mark -/

/-- The root element of a document in UTF-8, read behind the byte order mark if it has one. -/
def readUtf8 (marked : Bool) (body : List UInt8) : Except ReadError Element :=
  if declarationBytes.isPrefixOf body then
    match splitDeclaration? body with
    | none => .error .unexpectedEnd
    | some (first, second) => do
      let reader ← ({} : Reader).runBytes .utf8 first
      let encoding ← Encoding.utf8.afterDeclaration marked reader.encoding
      let reader ← reader.runBytes encoding second
      reader.finish
  else do
    let reader ← ({} : Reader).runBytes .utf8 body
    let _ ← Encoding.utf8.afterDeclaration marked reader.encoding
    reader.finish

/-- A text without a mark is read as it stands. -/
theorem parse_of_not_isMarked {text : String} (plain : Text.isMarked text = false) :
    parse text = readUtf8 false (Text.Utf8.encode text) := by
  simp only [parse, readDocument, Text.Utf8.marked?_encode plain]
  rfl

/-- A marked text is read behind its mark. -/
theorem parse_mark (text : String) :
    parse (Text.mark text) = readUtf8 true (Text.Utf8.encode text) := by
  rw [parse, Text.Utf8.encode_mark]
  rfl

/-- An encoding that may be declared behind a mark may be declared without one. -/
theorem Encoding.afterDeclaration_unmarked {label : Option String} {encoding : Encoding}
    (admitted : utf8.afterDeclaration true label = .ok encoding) :
    utf8.afterDeclaration false label = .ok encoding := by
  cases label with
  | none => exact admitted
  | some label =>
    simp only [afterDeclaration] at admitted ⊢
    cases known : Declared.ofLabel? label with
    | none => simp only [known] at admitted; exact admitted
    | some declared =>
      simp only [known] at admitted ⊢
      cases declared with
      | utf16 => exact admitted
      | bytes other =>
        by_cases same : other = utf8
        · simpa [same] using admitted
        · simp [same] at admitted

/-- What is read behind a mark is read without one. -/
theorem readUtf8_unmarked {body : List UInt8} {element : Element}
    (read : readUtf8 true body = .ok element) : readUtf8 false body = .ok element := by
  unfold readUtf8 at read ⊢
  split
  · next declares =>
    rw [if_pos declares] at read
    cases split : splitDeclaration? body with
    | none => simp only [split] at read; exact read
    | some parts =>
      simp only [split] at read ⊢
      obtain ⟨reader, ran, read⟩ := exists_of_bind_eq_ok read
      obtain ⟨encoding, admitted, read⟩ := exists_of_bind_eq_ok read
      simp only [ran, Encoding.afterDeclaration_unmarked admitted, bind, Except.bind]
      exact read
  · next undeclared =>
    rw [if_neg undeclared] at read
    obtain ⟨reader, ran, read⟩ := exists_of_bind_eq_ok read
    obtain ⟨encoding, admitted, read⟩ := exists_of_bind_eq_ok read
    simp only [ran, Encoding.afterDeclaration_unmarked admitted, bind, Except.bind]
    exact read

/-- The first visible character of a text that is a document is the start of markup. -/
theorem head?_of_readUtf8 {marked : Bool} {text : String} {element : Element}
    (read : readUtf8 marked (Text.Utf8.encode text) = .ok element) :
    (text.toList.dropWhile Text.isBlankChar).head? = some '<' := by
  unfold readUtf8 at read
  split at read
  · next declares =>
    obtain ⟨rest, bytes⟩ := List.isPrefixOf_iff_prefix.1 declares
    obtain ⟨behind, split⟩ :=
      @Text.Utf8.exists_of_encode_eq "<?xml" text rest bytes.symm
    rw [split]
    rfl
  · obtain ⟨last, ran, read⟩ := exists_of_bind_eq_ok read
    obtain ⟨_, _, finished⟩ := exists_of_bind_eq_ok read
    rw [Reader.runBytes_encode] at ran
    exact Reader.head?_of_finish ran finished

end Xml

/-! ## Which texts are recognised -/

/-- A document is read as a payload when it is read. -/
theorem parseSource_eq_ok_iff {text : String} {element : Element} :
    parseSource text = .ok element ↔ Xml.parse text = .ok element := by
  refine ⟨eq_ok_of_mapError, fun parsed => ?_⟩
  rw [parseSource, parsed]
  rfl

namespace Codec

/-- The test of the first character is about the first visible character. -/
theorem startsLikeDocument_eq (text : String) : startsLikeDocument text =
    ((text.toList.dropWhile Text.isBlankChar).head? == some '<') := by
  rw [startsLikeDocument, Text.trimStart, String.toList_ofList]

/-- A text without a mark that is a document is stored as its element. -/
theorem encodeText_of_parse {text : String} {element : Element}
    (plain : Text.isMarked text = false) (parsed : Xml.parse text = .ok element) :
    encodeText text = .ofElement element := by
  have starts : startsLikeDocument text = true := by
    rw [parse_of_not_isMarked plain] at parsed
    rw [startsLikeDocument_eq, head?_of_readUtf8 parsed]
    rfl
  rw [encodeText, if_pos starts, parsed]

/-- A text that is no document is stored as it stands. -/
theorem encodeText_of_error {text : String} {cause : ReadError}
    (refused : Xml.parse text = .error cause) : encodeText text = .ofText text := by
  rw [encodeText, refused]
  simp

/-- A text is a document without its mark if it is one with it, and recognised as such. -/
theorem recognised_of_parse_mark {text : String} {element : Element}
    (parsed : Xml.parse (Text.mark text) = .ok element) :
    Xml.parse text = .ok element ∧ encodeText text = .ofElement element := by
  rw [parse_mark] at parsed
  have plain : Text.isMarked text = false := by
    rw [← Bool.not_eq_true, Text.isMarked_iff]
    rintro ⟨rest, rfl⟩
    -- A second mark is neither white space nor markup.
    have front := head?_of_readUtf8 parsed
    rw [Text.toList_mark, List.dropWhile_cons_of_neg (by decide)] at front
    exact nomatch front
  have alone : Xml.parse text = .ok element := by
    rw [parse_of_not_isMarked plain, readUtf8_unmarked parsed]
  exact ⟨alone, encodeText_of_parse plain alone⟩

/-- A marked text is stored as it stands, be it a document or not. -/
theorem encodeText_mark (text : String) :
    encodeText (Text.mark text) = { nodes := [.text (Text.mark text)] } := by
  have visible : Text.isBlankChar Text.byteOrderMark = false := by decide
  have starts : startsLikeDocument (Text.mark text) = false := by
    rw [startsLikeDocument_eq, Text.toList_mark, List.dropWhile_cons_of_neg (by simp [visible])]
    rfl
  have shown : Text.isBlank (Text.mark text) = false := by
    rw [Text.isBlank, Text.toList_mark, List.all_cons, visible, Bool.false_and]
  rw [encodeText, if_neg (by simp [starts]), ofText_of_not_isBlank shown]

/-- A text is put into a body as the element that it is the document of. If it is none, it is put in
as it stands, or not at all if it is blank. A text with a byte order mark is always put in as it
stands; if it is a document, it is the same document without the mark, and recognised as such. -/
theorem encode_recognises (text : String) (envelope : Envelope) (ids : IdSupply) :
    (∃ body, encode .text (.text text) envelope ids = .ok { body, envelope, ids } ∧ body.nodes =
      match parseSource text with
      | .ok element => if Text.isMarked text then [.text text] else [element.toNode]
      | .error _ => if Text.isBlank text then [] else [.text text]) ∧
    ∀ rest element, text = Text.mark rest → parseSource text = .ok element →
      parseSource rest = .ok element ∧
        encode .text (.text rest) envelope ids =
          .ok { body := .ofElement element, envelope, ids } := by
  refine ⟨⟨encodeText text, rfl, ?nodes⟩, ?unmarked⟩
  case nodes =>
    cases parsed : Xml.parse text with
    | error cause =>
      have refused : parseSource text = .error (.malformedPayload (.invalidDocument cause)) := by
        rw [parseSource, parsed]
        rfl
      rw [refused, encodeText_of_error parsed]
      cases blank : Text.isBlank text <;> simp [Body.ofText, Body.ofNodes, isBlankNode, blank]
    | ok element =>
      rw [parseSource_eq_ok_iff.2 parsed]
      dsimp only
      cases marked : Text.isMarked text with
      | true =>
        obtain ⟨rest, rfl⟩ := Text.isMarked_iff.1 marked
        rw [encodeText_mark, if_pos rfl]
      | false =>
        rw [encodeText_of_parse marked parsed, if_neg Bool.false_ne_true, Body.ofElement]
  case unmarked =>
    rintro rest element rfl parsed
    obtain ⟨alone, stored⟩ := recognised_of_parse_mark (parseSource_eq_ok_iff.1 parsed)
    refine ⟨parseSource_eq_ok_iff.2 alone, ?_⟩
    rw [← stored]
    rfl

/-- The test of the first character withholds a document from the parser. -/
theorem not_recognised_marked : ¬ ∀ (text : String) (element : Element),
    (encodeText text).firstElement? = some element ↔ parseSource text = .ok element := by
  intro all
  have ran : ({} : Reader).run { chars := "<a/>".toList } =
      .ok { stage := .root, builder := { roots := [⟨{ name := "a" }, []⟩] } } :=
    @Reader.run_of_runWithin 10 _ _ _ rfl
  have parsed : Xml.parse (Text.mark "<a/>") = .ok ⟨{ name := "a" }, []⟩ := by
    have undeclared : declarationBytes.isPrefixOf (Text.Utf8.encode "<a/>") = false := rfl
    rw [parse_mark, readUtf8, undeclared, if_neg Bool.false_ne_true]
    simp only [Reader.runBytes_encode, ran]
    rfl
  have stored := (all _ _).2 (parseSource_eq_ok_iff.2 parsed)
  rw [encodeText_mark] at stored
  exact nomatch stored

end Codec

end SoapDispatch
