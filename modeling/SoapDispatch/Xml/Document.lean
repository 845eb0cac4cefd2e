import SoapDispatch.Text.Utf8
import SoapDispatch.Xml.Builder
import SoapDispatch.Xml.Declaration
import SoapDispatch.Xml.Doctype
import SoapDispatch.Xml.Encoding
import SoapDispatch.Xml.Feed

/-!
# Reading documents

A document is read token by token by a reader that knows what construct it is in, what has been
declared, and the tree so far. The bytes behind a document declaration are decoded as the
declaration says, so a document of bytes is read in two parts.
-/

namespace SoapDispatch.Xml

/-- The construct that is being read. Texts of which only a part has been read have their last
character first. -/
inductive Construct where
  | content
  | reference (name : List Char)
  | startTag (tag : PartialStartTag)
  | endTag (tag : PartialEndTag)
  | comment (text : List Char)
  | cdata (text : List Char)
  /-- The target of a processing instruction. -/
  | target (name : List Char)
  | instruction (target : String) (data : List Char)
  | declaration (declaration : Declaration)
  | doctype (doctype : Doctype)

/-- How far a document has got. -/
inductive Stage where
  /-- Nothing has been read. -/
  | start
  | prolog
  /-- The document type declaration has been read. -/
  | typed
  | root
deriving DecidableEq, Repr

/-- The state of reading a document. -/
structure Reader where
  context : Context := {}
  construct : Construct := .content
  stage : Stage := .start
  version : Version := .v10
  /-- The encoding that the document declares. -/
  encoding : Option String := none
  entities : Entities := []
  builder : Builder := {}

namespace Reader

/-- Whether the reader stands outside of every element. -/
def outside (reader : Reader) : Bool :=
  reader.builder.opened.isEmpty

/-- The reader behind a construct. -/
def resume (reader : Reader) (builder : Builder) : Reader :=
  { reader with construct := .content, builder }

/-- The reader at the start of a construct, the run of text before it being ended. -/
def begin (reader : Reader) (construct : Construct) : Reader :=
  { reader with
    construct
    builder := reader.builder.flush
    stage := if reader.stage = .start then .prolog else reader.stage }

/-- Takes a token into text or starts the construct that it introduces. -/
def stepContent (reader : Reader) : Token → Except ReadError Reader
  | .character c =>
    if reader.outside then
      if isSpace c then .ok (reader.begin .content) else .error .outsideRoot
    else if reader.version.admitsLiteral c then
      .ok (reader.resume (reader.builder.addCharacter c))
    else .error (.illegalCharacter c.toNat)
  | .tagStart => .ok { reader.begin (.startTag {}) with stage := .root }
  | .commentStart => .ok (reader.begin (.comment []))
  | .instructionStart =>
    .ok { reader with construct := .target [], builder := reader.builder.flush }
  | .doctypeStart =>
    if reader.stage = .start || reader.stage = .prolog then
      .ok { reader.begin (.doctype {}) with stage := .typed }
    else .error .misplacedDoctype
  | .cdataEnd => .error .strayCdataEnd
  | .declarationStart => .error .malformedMarkup
  | token =>
    if reader.outside then .error .outsideRoot
    else
      match token with
      | .endTagStart => .ok (reader.begin (.endTag (.name {})))
      | .cdataStart => .ok (reader.begin (.cdata []))
      | .referenceStart => .ok { reader with construct := .reference [] }
      | token => .ok (reader.resume (reader.builder.addSpelling token))

/-- Takes a token into a reference. The text of an entity is to be read next. -/
def stepReference (reader : Reader) (name : List Char) :
    Token → Except ReadError (Reader × List Char)
  | .character c =>
    if Reference.admits name c then .ok ({ reader with construct := .reference (c :: name) }, [])
    else .error .malformedReference
  | .referenceEnd => do
    match ← Reference.ofChars reader.version name.reverse with
    | .character c => .ok (reader.resume (reader.builder.addCharacter c), [])
    | .entity name => do
      let text ← reader.entities.find name
      .ok (reader.resume reader.builder.meetEntity, text)
  | _ => .error .malformedReference

/-- A text with a token added, its last character first. Control characters are refused. -/
def extend (version : Version) (text : List Char) : Token → Except ReadError (List Char)
  | .character c =>
    if version.admits c then .ok (c :: text) else .error (.illegalCharacter c.toNat)
  | token => .ok (token.spelling.reverse ++ text)

/-- Whether a name is `xml`, in whatever case. -/
def isReservedTarget (target : List Char) : Bool :=
  target.map Char.toLower == ['x', 'm', 'l']

/-- The reader behind a processing instruction. -/
def placeInstruction (reader : Reader) (target : String) (data : Option String) : Reader :=
  { reader.resume (reader.builder.place (.instruction target data)) with
    stage := if reader.stage = .start then .prolog else reader.stage }

/-- Takes a token into the target of a processing instruction. At the very start of a document the
target `xml` makes it the document declaration; everywhere else that target is reserved. -/
def stepTarget (reader : Reader) (name : List Char) : Token → Except ReadError Reader
  | .instructionEnd =>
    if name.isEmpty || isReservedTarget name.reverse then .error .malformedInstruction
    else .ok (reader.placeInstruction (String.ofList name.reverse) none)
  | .character c =>
    if isSpace c then
      if name.reverse = ['x', 'm', 'l'] && reader.stage = .start then
        .ok { reader with construct := .declaration {} }
      else if isReservedTarget name.reverse then .error .malformedInstruction
      else .ok { reader with construct := .instruction (String.ofList name.reverse) [] }
    else if if name.isEmpty then isNameStart c else isNameChar c then
      .ok { reader with construct := .target (c :: name) }
    else .error .malformedInstruction
  | _ => .error .malformedInstruction

/-- Takes in one token. What comes with the new state is to be read in front of everything else. -/
def step (reader : Reader) (token : Token) : Except ReadError (Reader × List Char) :=
  match reader.construct with
  | .content => do .ok (← reader.stepContent token, [])
  | .reference name => reader.stepReference name token
  | .startTag tag => do
    match ← tag.step reader.version reader.entities token with
    | .more tag => .ok ({ reader with construct := .startTag tag }, [])
    | .done tag => do .ok (reader.resume (← reader.builder.openElement tag), [])
  | .endTag tag => do
    match ← tag.step token with
    | .more tag => .ok ({ reader with construct := .endTag tag }, [])
    | .done name => do .ok (reader.resume (← reader.builder.closeElement name), [])
  | .comment text =>
    if token = .commentEnd then
      .ok (reader.resume (reader.builder.place (.comment (String.ofList text.reverse))), [])
    else do .ok ({ reader with construct := .comment (← extend reader.version text token) }, [])
  | .cdata text =>
    if token = .cdataEnd then .ok (reader.resume (reader.builder.addCdata text.reverse), [])
    else do .ok ({ reader with construct := .cdata (← extend reader.version text token) }, [])
  | .target name => do .ok (← reader.stepTarget name token, [])
  | .instruction target data =>
    if token = .instructionEnd then
      .ok (reader.placeInstruction target (some (String.ofList data.reverse)), [])
    else do
      let data ← extend reader.version data token
      .ok ({ reader with construct := .instruction target data }, [])
  | .declaration declaration => do
    match ← declaration.step token with
    | .more declaration => .ok ({ reader with construct := .declaration declaration }, [])
    | .done { version, encoding, .. } =>
      .ok ({ reader with construct := .content, stage := .prolog, version, encoding }, [])
  | .doctype doctype => do
    match ← doctype.step reader.version token with
    | .more (doctype, text) => .ok ({ reader with construct := .doctype doctype }, text)
    | .done entities => .ok ({ reader with construct := .content, entities }, [])

/-- Reads everything there is. -/
def run (reader : Reader) (feed : Feed) : Except ReadError Reader :=
  if feed.chars.isEmpty then .ok reader
  else
    match _taken : reader.context.read feed.chars with
    | .error cause => .error cause
    | .ok (token, context, rest) =>
      match { reader with context }.step token with
      | .error cause => .error cause
      | .ok (next, text) =>
        match _entered : (feed.advance token.spelling.length rest).enter text with
        | .error cause => .error cause
        | .ok feed => run next feed
termination_by (feed.own, feed.budget, feed.chars.length)
decreasing_by
  refine Feed.progress (List.length_pos_iff.2 token.spelling_ne_nil) ?_ _entered
  rw [Context.spelling_of_read _taken, List.length_append]

/-- Where nothing is left, reading has ended. -/
theorem run_of_isEmpty {reader : Reader} {feed : Feed} (ended : feed.chars.isEmpty = true) :
    reader.run feed = .ok reader := by
  rw [run]
  simp [ended]

/-- A token that the reader takes in is read before everything behind it. -/
theorem run_of_step {reader next : Reader} {feed after : Feed} {token : Token} {context : Context}
    {rest text : List Char} (more : feed.chars.isEmpty = false)
    (taken : reader.context.read feed.chars = .ok (token, context, rest))
    (stepped : { reader with context }.step token = .ok (next, text))
    (entered : (feed.advance token.spelling.length rest).enter text = .ok after) :
    reader.run feed = next.run after := by
  rw [run]
  simp only [more, Bool.false_eq_true, if_false]
  split
  · rename_i failed
    rw [failed] at taken
    cases taken
  · rename_i same
    rw [taken] at same
    obtain ⟨rfl, rfl, rfl⟩ := Except.ok.inj same
    simp only [stepped]
    split
    · rename_i failed
      rw [failed] at entered
      cases entered
    · rename_i same
      rw [Except.ok.inj (entered.symm.trans same)]

/-- The root element, if the document may end here. -/
def finish (reader : Reader) : Except ReadError Element :=
  match reader.construct with
  | .content => if reader.context.mayEnd then reader.builder.finish else .error .unexpectedEnd
  | _ => .error .unexpectedEnd

end Reader

/-! ## Documents of bytes -/

/-- Cuts bytes after the first `?>` in them. -/
def splitDeclaration? : List UInt8 → Option (List UInt8 × List UInt8)
  | 0x3F :: 0x3E :: rest => some ([0x3F, 0x3E], rest)
  | byte :: rest => (splitDeclaration? rest).map fun parts => (byte :: parts.1, parts.2)
  | [] => none

/-- The bytes that a declaration starts with. -/
def declarationBytes : List UInt8 := [0x3C, 0x3F, 0x78, 0x6D, 0x6C]

/-- The reader behind bytes in an encoding. -/
def Reader.runBytes (reader : Reader) (encoding : Encoding) (bytes : List UInt8) :
    Except ReadError Reader :=
  match encoding.decode? bytes with
  | some chars => reader.run { chars }
  | none => .error .undecodable

/-- The root element of a document given as bytes. -/
def readDocument (bytes : List UInt8) : Except ReadError Element := do
  let (start, marked, body) :=
    match Encoding.marked? bytes with
    | some (encoding, body) => (encoding, true, body)
    | none => (Encoding.utf8, false, bytes)
  if start = .utf8 && declarationBytes.isPrefixOf body then
    match splitDeclaration? body with
    | none => .error .unexpectedEnd
    | some (first, second) => do
      let reader ← ({} : Reader).runBytes .utf8 first
      let encoding ← start.afterDeclaration marked reader.encoding
      let reader ← reader.runBytes encoding second
      reader.finish
  else do
    let reader ← ({} : Reader).runBytes start body
    let _ ← start.afterDeclaration marked reader.encoding
    reader.finish

/-- The root element of a document given as text. -/
def parse (text : String) : Except ReadError Element :=
  readDocument (Text.Utf8.encode text)

/-- A text that declares nothing of itself is read character by character. -/
theorem parse_of_run {text : String} {last : Reader}
    (unmarked : Encoding.marked? (Text.Utf8.encode text) = none)
    (undeclared : declarationBytes.isPrefixOf (Text.Utf8.encode text) = false)
    (ran : ({} : Reader).run { chars := text.toList } = .ok last) (plain : last.encoding = none) :
    parse text = last.finish := by
  have decoded : Encoding.utf8.decode? (Text.Utf8.encode text) = some text.toList := by
    simp [Encoding.decode?, Text.Utf8.decode?_encode]
  have read : ({} : Reader).runBytes .utf8 (Text.Utf8.encode text) = .ok last := by
    simp only [Reader.runBytes, decoded, ran]
  simp only [parse, readDocument, unmarked, undeclared, read]
  simp only [bind, Except.bind, plain]
  rfl

end SoapDispatch.Xml
