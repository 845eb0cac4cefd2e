import SoapDispatch.Yaml.Scalar

/-!
# Reading tokens

A text is cut into tokens from left to right. What turns out to be a key is known only at the colon
behind it, so the place of every possible key is remembered, one for each open flow collection and
one for the block around them; at the colon the tokens that announce a key are put in there. A
possible key is given up at the end of its line.
-/

namespace SoapDispatch.Yaml

open SoapDispatch.Text

/-- A place where a key may have started. -/
structure PossibleKey where
  /-- Whether it has to be a key because nothing else can start at its column. -/
  required : Bool
  /-- The number of tokens before it. -/
  position : Nat
  line : Nat
  column : Nat
  offset : Nat

/-- What has been read of a document, and what is left of it. -/
structure TokenReader where
  cursor : Cursor
  /-- The tokens, latest first. -/
  tokens : List Token := []
  /-- The number of tokens. -/
  count : Nat := 0
  /-- The column of the innermost block collection; there is none at first. -/
  indent : Int := -1
  /-- The columns of the block collections around it. -/
  outer : List Int := []
  /-- Whether a key may start here. -/
  keyAllowed : Bool := true
  /-- The possible keys of the open flow collections, innermost first, and of the block. -/
  keys : List (Option PossibleKey) := [none]

namespace TokenReader

/-- Whether a flow collection is open. -/
def inFlow (reader : TokenReader) : Bool :=
  1 < reader.keys.length

/-- Appends a token. -/
def emit (reader : TokenReader) (token : Token) : TokenReader :=
  { reader with tokens := token :: reader.tokens, count := reader.count + 1 }

/-- Puts a token in behind so many others. -/
def emitAt (reader : TokenReader) (position : Nat) (token : Token) : TokenReader :=
  let later := reader.count - position
  { reader with
    tokens := reader.tokens.take later ++ token :: reader.tokens.drop later
    count := reader.count + 1 }

/-- The reader some characters further on. -/
def skip (reader : TokenReader) (count : Nat) : TokenReader :=
  { reader with cursor := reader.cursor.skip count }

/-- Opens a block collection at a column unless one is open there or further right. -/
def openBlock (reader : TokenReader) (column position : Nat) (token : Token) : TokenReader :=
  if !reader.inFlow && reader.indent < column then
    { reader.emitAt position token with
      indent := column
      outer := reader.indent :: reader.outer }
  else reader

/-- Closes the block collections that are further right than a column; `outer` are the columns of
those around the innermost one. -/
def closeBlocksFrom (column : Int) (reader : TokenReader) : List Int → TokenReader
  | [] => { reader with outer := [] }
  | next :: outer =>
    if column < reader.indent then
      closeBlocksFrom column { reader.emit .blockEnd with indent := next } outer
    else { reader with outer := next :: outer }

/-- Closes the block collections that are further right than a column, outside of flow
collections. -/
def closeBlocks (reader : TokenReader) (column : Int) : TokenReader :=
  if reader.inFlow then reader else closeBlocksFrom column reader reader.outer

/-- Gives up the innermost possible key, which must not have been required. -/
def dropKey (reader : TokenReader) : Except Refusal TokenReader :=
  match reader.keys with
  | some key :: rest =>
    if key.required then .error .missingColon
    else .ok { reader with keys := none :: rest }
  | _ => .ok reader

/-- Remembers that a key may start here, if it may. -/
def saveKey (reader : TokenReader) : Except Refusal TokenReader :=
  if reader.keyAllowed then do
    let reader ← reader.dropKey
    let key : PossibleKey := {
      required := !reader.inFlow && reader.indent == reader.cursor.column
      position := reader.count
      line := reader.cursor.line
      column := reader.cursor.column
      offset := reader.cursor.offset }
    .ok { reader with keys := some key :: reader.keys.drop 1 }
  else .ok reader

/-- How many bytes a key may be from its colon. -/
def keyLimit : Nat := 1024

/-- Gives up the possible keys that the reader has got too far from. -/
def dropStaleKeys (reader : TokenReader) : Except Refusal TokenReader := do
  let keys ← reader.keys.mapM fun key? =>
    match key? with
    | none => .ok none
    | some key =>
      if key.line < reader.cursor.line || key.offset + keyLimit < reader.cursor.offset then
        if key.required then .error Refusal.missingColon else .ok none
      else .ok (some key)
  .ok { reader with keys }

/-- A byte order mark, which may stand at the start of a line. -/
def byteOrderMark : Char := '\ufeff'

/-- Passes over white space, comments and line breaks. Tabs count as white space where no key may
start. Tells whether a key may start behind, which a new line allows outside of flow collections. -/
def skipGap (flow keyAllowed comment lineStart : Bool) : List Char → List Char × Bool
  | [] => ([], keyAllowed)
  | c :: rest =>
    if isBreak c then skipGap flow (keyAllowed || !flow) false true rest
    else if comment then skipGap flow keyAllowed true false rest
    else if lineStart && c == byteOrderMark then skipGap flow keyAllowed false false rest
    else if c == ' ' || (c == '\t' && (flow || !keyAllowed)) then
      skipGap flow keyAllowed false false rest
    else if c == '#' then skipGap flow keyAllowed true false rest
    else (c :: rest, keyAllowed)

/-- Goes on to where the next token starts. -/
def approach (reader : TokenReader) : TokenReader :=
  let (rest, keyAllowed) := skipGap reader.inFlow reader.keyAllowed false
    (reader.cursor.column == 0) reader.cursor.chars
  { reader with cursor := reader.cursor.advanceTo rest, keyAllowed }

/-- Reads an indicator that opens a flow collection. -/
def openFlow (reader : TokenReader) (token : Token) : Except Refusal TokenReader := do
  let reader ← reader.saveKey
  .ok { (reader.emit token).skip 1 with keys := none :: reader.keys, keyAllowed := true }

/-- Reads an indicator that closes a flow collection. -/
def closeFlow (reader : TokenReader) (token : Token) : Except Refusal TokenReader := do
  let reader ← reader.dropKey
  let keys := if reader.inFlow then reader.keys.drop 1 else reader.keys
  .ok { (reader.emit token).skip 1 with keys, keyAllowed := false }

/-- Reads the comma between the entries of a flow collection. -/
def readFlowEntry (reader : TokenReader) : Except Refusal TokenReader := do
  let reader ← reader.dropKey
  .ok { (reader.emit .flowEntry).skip 1 with keyAllowed := true }

/-- Opens a block collection at the reader's column, where a key must be allowed. -/
def openBlockHere (reader : TokenReader) (token : Token) : Except Refusal TokenReader :=
  if reader.inFlow then .ok reader
  else if reader.keyAllowed then
    .ok (reader.openBlock reader.cursor.column reader.count token)
  else .error .misplacedIndicator

/-- Reads the dash before an item of a block sequence. -/
def readBlockEntry (reader : TokenReader) : Except Refusal TokenReader := do
  let reader ← reader.openBlockHere .blockSequenceStart
  let reader ← reader.dropKey
  .ok { (reader.emit .blockEntry).skip 1 with keyAllowed := true }

/-- Reads the question mark before a key. -/
def readKey (reader : TokenReader) : Except Refusal TokenReader := do
  let reader ← reader.openBlockHere .blockMappingStart
  let reader ← reader.dropKey
  .ok { (reader.emit .key).skip 1 with keyAllowed := !reader.inFlow }

/-- Reads the colon between a key and its value. -/
def readColon (reader : TokenReader) : Except Refusal TokenReader :=
  match reader.keys with
  | some key :: rest =>
    let reader := (reader.emitAt key.position .key).openBlock key.column key.position
      .blockMappingStart
    .ok { (reader.emit .value).skip 1 with keys := none :: rest, keyAllowed := false }
  | _ => do
    let reader ← reader.openBlockHere .blockMappingStart
    .ok { (reader.emit .value).skip 1 with keyAllowed := !reader.inFlow }

/-- The characters of the name of an anchor, a handle or a directive. -/
def isNameChar (c : Char) : Bool :=
  c.isAlphanum || c == '_' || c == '-'

/-- Whether the name of an anchor may end before a text. -/
def atAnchorEnd (chars : List Char) : Bool :=
  atGap chars || chars.head?.any ['?', ':', ',', ']', '}', '%', '@', '\x60'].contains

/-- Reads an anchor or an alias. -/
def readAnchor (reader : TokenReader) (token : String → Token) : Except Refusal TokenReader := do
  let reader ← reader.saveKey
  let text := reader.cursor.chars.drop 1
  let name := text.takeWhile isNameChar
  let rest := text.dropWhile isNameChar
  if name.isEmpty || !atAnchorEnd rest then .error .malformedAnchor
  else
    .ok { reader.emit (token (String.ofList name)) with
      cursor := reader.cursor.advanceTo rest
      keyAllowed := false }

/-- The characters of a tag; one in full may hold a few more. -/
def isTagChar (full : Bool) (c : Char) : Bool :=
  isNameChar c ||
    [';', '/', '?', ':', '@', '&', '=', '+', '$', '.', '!', '~', '*', '\'', '(', ')'].contains c ||
    (full && [',', '[', ']'].contains c)

/-- How many bytes the encoding of a character has, told from the first one. -/
def encodedLength? (byte : UInt8) : Option Nat :=
  if byte < 0x80 then some 1
  else if byte < 0xC0 then none
  else if byte < 0xE0 then some 2
  else if byte < 0xF0 then some 3
  else if byte < 0xF8 then some 4
  else none

/-- The byte that an escape stands for, a percent sign and two hexadecimal digits. -/
def escapedByte? : List Char → Option (UInt8 × List Char)
  | '%' :: high :: low :: rest =>
    (numberOf? 16 hexDigit? [high, low]).map fun byte => (byte.toUInt8, rest)
  | _ => none

/-- So many further bytes of a character, all of them escaped. -/
def escapedTail? : Nat → List Char → Option (List UInt8 × List Char)
  | 0, rest => some ([], rest)
  | count + 1, chars => do
    let (byte, rest) ← escapedByte? chars
    if byte < 0x80 || 0xC0 ≤ byte then none
    let (bytes, rest) ← escapedTail? count rest
    some (byte :: bytes, rest)

/-- The bytes of a character of which the first one is escaped, and what follows them. -/
def escapedBytes? (chars : List Char) : Option (List UInt8 × List Char) := do
  let (first, rest) ← escapedByte? chars
  let (tail, rest) ← escapedTail? ((← encodedLength? first) - 1) rest
  some (first :: tail, rest)

/-- Reads the bytes of a tag, in which characters outside of ASCII are written as escapes; those
read already stand in `bytes` with the last one first. -/
def readTagText (full : Bool) (bytes : List UInt8) :
    Nat → List Char → Except Refusal (List UInt8 × List Char)
  | 0, rest => .ok (bytes.reverse, rest)
  | _, [] => .ok (bytes.reverse, [])
  | fuel + 1, c :: rest =>
    if c == '%' then
      match escapedBytes? (c :: rest) with
      | some (escaped, rest) => readTagText full (escaped.reverse ++ bytes) fuel rest
      | none => .error .malformedTag
    else if isTagChar full c then readTagText full (c.toUInt8 :: bytes) fuel rest
    else .ok (bytes.reverse, c :: rest)

/-- What counts of the bytes of a tag: those before the first zero. -/
def significant (bytes : List UInt8) : List UInt8 :=
  bytes.takeWhile (· != 0)

/-- Reads the bytes of a tag, of which there must be some. -/
def readTagName (full : Bool) (chars : List Char) : Except Refusal (List UInt8 × List Char) := do
  let (name, rest) ← readTagText full [] chars.length chars
  if name.isEmpty then .error .malformedTag else .ok (significant name, rest)

/-- Cuts a tag handle, an exclamation mark followed by a name, off the front of a text. The handle
is closed by another exclamation mark, if there is one. -/
def splitHandle (chars : List Char) : List Char × List Char :=
  let name := (chars.drop 1).takeWhile isNameChar
  match (chars.drop 1).dropWhile isNameChar with
  | '!' :: rest => ('!' :: name ++ ['!'], rest)
  | rest => ('!' :: name, rest)

/-- Whether a handle is closed by a second exclamation mark. -/
def isClosedHandle (handle : List Char) : Bool :=
  1 < handle.length && handle.getLast? == some '!'

/-- A tag that is nothing but its mark. -/
def bareTag : List UInt8 := [0x21]

/-- Reads a tag: its handle, what follows the handle, and the text behind. -/
def readTagParts (chars : List Char) : Except Refusal (List Char × List UInt8 × List Char) :=
  match chars with
  | '!' :: '<' :: full => do
    match ← readTagName true full with
    | (name, '>' :: rest) => .ok ([], name, rest)
    | _ => .error .malformedTag
  | _ => do
    let (handle, after) := splitHandle chars
    if isClosedHandle handle then
      let (suffix, rest) ← readTagName false after
      .ok (handle, suffix, rest)
    else
      let head := (handle.drop 1).reverse.map Char.toUInt8
      let (bytes, rest) ← readTagText false head after.length after
      let suffix := significant bytes
      .ok (if suffix.isEmpty then ([], bareTag, rest) else (['!'], suffix, rest))

/-- Reads a tag, in full between angle brackets or in short. -/
def readTag (reader : TokenReader) : Except Refusal TokenReader := do
  let reader ← reader.saveKey
  let (handle, suffix, rest) ← readTagParts reader.cursor.chars
  if !(atGap rest || (reader.inFlow && rest.head? == some ',')) then .error .malformedTag
  else
    .ok { reader.emit (.tag (String.ofList handle) suffix) with
      cursor := reader.cursor.advanceTo rest
      keyAllowed := false }

/-- Reads a scalar that may be a key. -/
def emitScalar (reader : TokenReader) (text : String) (plain : Bool) (rest : List Char)
    (keyAllowed : Bool) : TokenReader :=
  { reader.emit (.scalar text plain) with
    cursor := reader.cursor.advanceTo rest
    keyAllowed }

/-- Reads a quoted scalar. -/
def readQuotedScalar (reader : TokenReader) (double : Bool) : Except Refusal TokenReader := do
  let reader ← reader.saveKey
  let text := reader.cursor.chars.drop 1
  let draft : Draft := { column := reader.cursor.column + 1 }
  let (draft, rest) ← if double then readDouble draft text else readSingle draft text
  .ok (reader.emitScalar draft.result false rest false)

/-- Reads a plain scalar. -/
def readPlainScalar (reader : TokenReader) : Except Refusal TokenReader := do
  let reader ← reader.saveKey
  let (draft, rest) ← readPlain reader.inFlow (reader.indent + 1).toNat
    { column := reader.cursor.column } reader.cursor.chars
  .ok (reader.emitScalar draft.result true rest draft.broken)

/-- Reads a block scalar. -/
def readBlockText (reader : TokenReader) (literal : Bool) : Except Refusal TokenReader := do
  let reader ← reader.dropKey
  let (text, rest) ← readBlockScalar literal reader.indent (reader.cursor.chars.drop 1)
  .ok (reader.emitScalar text false rest true)

/-- Reads a marker of the start or the end of a document. -/
def readMarker (reader : TokenReader) (token : Token) : Except Refusal TokenReader := do
  let reader ← (reader.closeBlocks (-1)).dropKey
  .ok { (reader.emit token).skip 3 with keyAllowed := false }

/-- The greatest number of digits in each half of a version. -/
def versionDigits : Nat := 9

/-- Reads the number at the front of a text. -/
def readVersionNumber (chars : List Char) : Except Refusal (Nat × List Char) :=
  let digits := chars.takeWhile Char.isDigit
  match numberOf? 10 decimalDigit? digits with
  | some number =>
    if digits.length ≤ versionDigits then .ok (number, chars.dropWhile Char.isDigit)
    else .error .malformedDirective
  | none => .error .malformedDirective

/-- Reads the version in a directive, which must be 1.1 or 1.2. -/
def readVersion (chars : List Char) : Except Refusal (Token × List Char) := do
  match ← readVersionNumber (chars.dropWhile isSpacing) with
  | (major, '.' :: after) =>
    let (minor, rest) ← readVersionNumber after
    if major == 1 && (minor == 1 || minor == 2) then .ok (.versionDirective, rest)
    else .error .malformedDirective
  | _ => .error .malformedDirective

/-- Reads the handle and the address in a directive. -/
def readTagDirective (chars : List Char) : Except Refusal (Token × List Char) := do
  match chars.dropWhile isSpacing with
  | '!' :: text =>
    let (handle, after) := splitHandle ('!' :: text)
    if !(isClosedHandle handle || handle == ['!']) then .error .malformedDirective
    else if !after.head?.any isSpacing then .error .malformedDirective
    else
      let (address, rest) ← readTagName true (after.dropWhile isSpacing)
      if atGap rest then
        .ok (.tagDirective (String.ofList handle) address, rest)
      else .error .malformedDirective
  | _ => .error .malformedDirective

/-- Reads a directive, of the version or of a tag handle. -/
def readDirective (reader : TokenReader) : Except Refusal TokenReader := do
  let reader ← (reader.closeBlocks (-1)).dropKey
  let text := reader.cursor.chars.drop 1
  let name := String.ofList (text.takeWhile isNameChar)
  let after := text.dropWhile isNameChar
  let (token, left) ←
    if !atGap after then .error Refusal.malformedDirective
    else if name = "YAML" then readVersion after
    else if name = "TAG" then readTagDirective after
    else .error Refusal.malformedDirective
  match blankLine? left with
  | none => .error .malformedDirective
  | some rest =>
    .ok { reader.emit token with
      cursor := reader.cursor.advanceTo rest
      keyAllowed := false }

/-- The characters that have a meaning of their own and start no plain scalar. -/
def indicators : List Char :=
  ['-', '?', ':', ',', '[', ']', '{', '}', '#', '&', '*', '!', '|', '>', '\'', '"', '%', '@',
    '\x60']

/-- Whether a plain scalar can start at a text that stands at no other indicator. -/
def startsPlain (flow : Bool) : List Char → Bool
  | [] => false
  | c :: rest =>
    if c == '-' then !rest.head?.all isSpacing || rest.head?.any isBreak
    else if c == '?' || c == ':' then !flow && !atGap rest
    else !indicators.contains c && !isSpacing c && !isBreak c

/-- Reads the token that the reader stands at. -/
def readToken (reader : TokenReader) : Except Refusal TokenReader :=
  let chars := reader.cursor.chars
  let flow := reader.inFlow
  if reader.cursor.atMarker then
    reader.readMarker (if chars.head? == some '-' then .documentStart else .documentEnd)
  else
    match chars with
    | [] => .ok reader
    | c :: rest =>
      if c == '%' && reader.cursor.column == 0 then reader.readDirective
      else if c == '[' then reader.openFlow .flowSequenceStart
      else if c == '{' then reader.openFlow .flowMappingStart
      else if c == ']' then reader.closeFlow .flowSequenceEnd
      else if c == '}' then reader.closeFlow .flowMappingEnd
      else if c == ',' then reader.readFlowEntry
      else if c == '-' && atGap rest then reader.readBlockEntry
      else if c == '?' && (flow || atGap rest) then reader.readKey
      else if c == ':' && (flow || atGap rest) then reader.readColon
      else if c == '*' then reader.readAnchor .alias
      else if c == '&' then reader.readAnchor .anchor
      else if c == '!' then reader.readTag
      else if c == '|' && !flow then reader.readBlockText true
      else if c == '>' && !flow then reader.readBlockText false
      else if c == '\'' then reader.readQuotedScalar false
      else if c == '"' then reader.readQuotedScalar true
      else if startsPlain flow chars then reader.readPlainScalar
      else .error .misplacedIndicator

/-- Reads tokens to the end of the text, as many as there are characters at most. -/
def readTokens (reader : TokenReader) : Nat → Except Refusal (List Token)
  | 0 => .error .misplacedIndicator
  | fuel + 1 => do
    let reader ← reader.approach.dropStaleKeys
    let reader := reader.closeBlocks reader.cursor.column
    if reader.cursor.chars.isEmpty then do
      let reader ← (reader.closeBlocks (-1)).dropKey
      .ok reader.tokens.reverse
    else readTokens (← reader.readToken) fuel

end TokenReader

/-- The tokens of a text. -/
def tokensOf (text : String) : Except Refusal (List Token) :=
  let chars := text.toList
  match chars.find? fun c => !documentClass.contains c with
  | some c => .error (.illegalCharacter c.toNat)
  | none =>
    let chars := normalize chars
    TokenReader.readTokens { cursor := { chars } } (chars.length + 1)

end SoapDispatch.Yaml
