import SoapDispatch.Text.Utf8
import SoapDispatch.Yaml.TokenReader

/-!
# Nodes of a document

A document as it is written: scalars, collections and aliases, with tags and anchors. Nodes are read
from tokens. Anchors are numbered, and an alias holds the number of the anchor it refers to, so that
what it stands for can be looked up once the document is complete.
-/

namespace SoapDispatch.Yaml

/-- What is written in front of a node. -/
structure Marks where
  /-- The bytes of the tag in full. -/
  tag : Option (List UInt8) := none
  anchor : Option Nat := none
deriving DecidableEq, Repr

/-- A node of a document. -/
inductive Node where
  | alias (anchor : Nat)
  | scalar (marks : Marks) (text : String) (plain : Bool)
  | sequence (marks : Marks) (items : List Node)
  | mapping (marks : Marks) (entries : List (Node × Node))

namespace Node

/-- A node that is not written at all. -/
def absent (marks : Marks) : Node :=
  .scalar marks "" true

/-- What is left of the tokens of a document, and what has been named so far. -/
structure Reading where
  tokens : List Token
  /-- The numbers of the anchors, latest first. -/
  anchors : List (String × Nat) := []
  /-- The meanings of tag handles. -/
  handles : List (String × List UInt8) := []

/-- A step of reading. -/
abbrev Reader := StateT Reading (Except Refusal)

/-- The next token. -/
def peek : Reader (Option Token) :=
  return (← get).tokens.head?

/-- Passes over the next token. -/
def advance : Reader Unit :=
  modify fun reading => { reading with tokens := reading.tokens.drop 1 }

/-- Passes over the next token if it is the given one, and tells whether it was. -/
def accept (token : Token) : Reader Bool := do
  if (← peek) == some token then
    advance
    return true
  else return false

/-- Passes over the next token, which must be the given one. -/
def expect (token : Token) : Reader Unit := do
  if !(← accept token) then throw .unexpectedToken

/-- Whether the next token is one of several. -/
def nextIn (tokens : List Token) : Reader Bool :=
  return (← peek).any tokens.contains

/-- The tag that a handle and a suffix make. -/
def tagOf (handle : String) (suffix : List UInt8) : Reader (List UInt8) := do
  if handle.isEmpty then return suffix
  match (← get).handles.lookup handle with
  | some address => return address ++ suffix
  | none => throw (.unknownHandle handle)

/-- Numbers an anchor by how many names there are before it. A name that is used again loses its
former number, but still counts as one name. -/
def name (anchor : String) : Reader Nat := do
  let reading ← get
  let number := reading.anchors.length
  set { reading with
    anchors := (anchor, number) :: reading.anchors.filter fun entry => entry.1 != anchor }
  return number

/-- Reads an anchor, if there is one. -/
def readAnchor : Reader (Option String) := do
  match ← peek with
  | some (.anchor anchor) =>
    advance
    return some anchor
  | _ => return none

/-- Reads a tag, if there is one. -/
def readTag : Reader (Option (List UInt8)) := do
  match ← peek with
  | some (.tag handle suffix) =>
    advance
    return some (← tagOf handle suffix)
  | _ => return none

/-- Reads the anchor and the tag in front of a node, in either order. -/
def readMarks : Reader Marks := do
  match ← readAnchor with
  | some anchor =>
    let tag ← readTag
    return { tag, anchor := some (← name anchor) }
  | none =>
    let tag ← readTag
    match ← readAnchor with
    | some anchor => return { tag, anchor := some (← name anchor) }
    | none => return { tag }

mutual

/-- Reads a node. A collection in block style is read only if `block` allows it, and a sequence that
is not indented only if `unindented` does. -/
def readNode (block unindented : Bool) : Nat → Reader Node
  | 0 => throw .unexpectedToken
  | fuel + 1 => do
    match ← peek with
    | some (.alias target) =>
      advance
      match (← get).anchors.lookup target with
      | some anchor => return .alias anchor
      | none => throw (.unknownAlias target)
    | _ =>
      let marks ← readMarks
      match ← peek with
      | some (.scalar text plain) =>
        advance
        return .scalar marks text plain
      | some .flowSequenceStart =>
        advance
        return .sequence marks (← readFlowItems true fuel)
      | some .flowMappingStart =>
        advance
        return .mapping marks (← readFlowEntries true fuel)
      | next =>
        if unindented && next == some .blockEntry then
          return .sequence marks (← readUnindentedItems fuel)
        else if block && next == some .blockSequenceStart then
          advance
          return .sequence marks (← readBlockItems fuel)
        else if block && next == some .blockMappingStart then
          advance
          return .mapping marks (← readBlockEntries fuel)
        else if marks.tag.isSome || marks.anchor.isSome then return absent marks
        else throw .unexpectedToken

/-- Reads a node, unless one of the given tokens shows that there is none. -/
def readNodeUnless (stops : List Token) (block unindented : Bool) : Nat → Reader Node
  | 0 => throw .unexpectedToken
  | fuel + 1 => do
    if ← nextIn stops then return absent {}
    else readNode block unindented fuel

/-- Reads the items of a block sequence, and its end. -/
def readBlockItems : Nat → Reader (List Node)
  | 0 => throw .unexpectedToken
  | fuel + 1 => do
    if ← accept .blockEntry then
      let item ← readNodeUnless [.blockEntry, .blockEnd] true false fuel
      return item :: (← readBlockItems fuel)
    else
      expect .blockEnd
      return []

/-- Reads the items of a block sequence that is not indented. -/
def readUnindentedItems : Nat → Reader (List Node)
  | 0 => throw .unexpectedToken
  | fuel + 1 => do
    if ← accept .blockEntry then
      let item ← readNodeUnless [.blockEntry, .key, .value, .blockEnd] true false fuel
      return item :: (← readUnindentedItems fuel)
    else return []

/-- Reads the entries of a block mapping, and its end. -/
def readBlockEntries : Nat → Reader (List (Node × Node))
  | 0 => throw .unexpectedToken
  | fuel + 1 => do
    if ← accept .key then
      let key ← readNodeUnless [.key, .value, .blockEnd] true true fuel
      let value ←
        if ← accept .value then readNodeUnless [.key, .value, .blockEnd] true true fuel
        else pure (absent {})
      return (key, value) :: (← readBlockEntries fuel)
    else
      expect .blockEnd
      return []

/-- Reads the items of a flow sequence, and its end. An item may be a single entry of a mapping. -/
def readFlowItems (first : Bool) : Nat → Reader (List Node)
  | 0 => throw .unexpectedToken
  | fuel + 1 => do
    if ← accept .flowSequenceEnd then return []
    if !first then expect .flowEntry
    if ← accept .key then
      let entry ← readSingleEntry fuel
      return .mapping {} [entry] :: (← readFlowItems false fuel)
    else if ← accept .flowSequenceEnd then return []
    else
      let item ← readNode false false fuel
      return item :: (← readFlowItems false fuel)

/-- Reads the only entry of a mapping in a flow sequence, after the mark of its key. What shows that
the key is missing is passed over. -/
def readSingleEntry : Nat → Reader (Node × Node)
  | 0 => throw .unexpectedToken
  | fuel + 1 => do
    let key ←
      if ← nextIn [.value, .flowEntry, .flowSequenceEnd] then do
        advance
        pure (absent {})
      else readNode false false fuel
    let value ←
      if ← accept .value then readNodeUnless [.flowEntry, .flowSequenceEnd] false false fuel
      else pure (absent {})
    return (key, value)

/-- Reads the entries of a flow mapping, and its end. -/
def readFlowEntries (first : Bool) : Nat → Reader (List (Node × Node))
  | 0 => throw .unexpectedToken
  | fuel + 1 => do
    if ← accept .flowMappingEnd then return []
    if !first then expect .flowEntry
    if ← accept .key then
      let key ← readNodeUnless [.value, .flowEntry, .flowMappingEnd] false false fuel
      let value ←
        if ← accept .value then readNodeUnless [.flowEntry, .flowMappingEnd] false false fuel
        else pure (absent {})
      return (key, value) :: (← readFlowEntries false fuel)
    else if ← accept .flowMappingEnd then return []
    else
      let key ← readNode false false fuel
      return (key, absent {}) :: (← readFlowEntries false fuel)

end

/-- The meanings that tag handles have unless a directive gives them another one. -/
def usualHandles : List (String × List UInt8) :=
  [("!", Text.Utf8.encode "!"), ("!!", Text.Utf8.encode "tag:yaml.org,2002:")]

/-- Reads the directives in front of a document, and tells whether there are any. -/
def readDirectives (versions : Nat) : Nat → Reader Bool
  | 0 => throw .unexpectedToken
  | fuel + 1 => do
    match ← peek with
    | some .versionDirective =>
      if versions = 0 then
        advance
        let _ ← readDirectives 1 fuel
        return true
      else throw .repeatedDirective
    | some (.tagDirective handle address) =>
      let reading ← get
      if (reading.handles.lookup handle).isSome then throw .repeatedDirective
      advance
      modify fun reading => { reading with handles := (handle, address) :: reading.handles }
      let _ ← readDirectives versions fuel
      return true
    | _ => return false

/-- The steps that are enough to read so many tokens. -/
def fuelFor (tokens : List Token) : Nat :=
  4 * tokens.length + 16

/-- Reads a document: none is there if the tokens are at their end. Without a marker of its start,
it has no directives and cannot be empty. -/
def readDocument : Reader (Option Node) := do
  let fuel := fuelFor (← get).tokens
  let directed ← readDirectives 0 fuel
  modify fun reading => { reading with handles := reading.handles ++ usualHandles }
  if ← accept .documentStart then
    match ← peek with
    | none => return some (absent {})
    | some .versionDirective => return some (absent {})
    | some (.tagDirective _ _) => return some (absent {})
    | some .documentStart => return some (absent {})
    | some .documentEnd => return some (absent {})
    | _ => return some (← readNode true false fuel)
  else if directed then throw .unexpectedToken
  else if (← peek).isNone then return none
  else return some (← readNode true false fuel)

/-- Reads the markers of the end of a document, behind which no other one may follow. -/
def readEnd : Nat → Reader Unit
  | 0 => throw .severalDocuments
  | fuel + 1 => do
    if ← accept .documentEnd then readEnd fuel
    else if (← peek).isSome then throw .severalDocuments

/-- The only document that tokens make, if there is one. -/
def ofTokens (tokens : List Token) : Except Refusal (Option Node) := do
  let (node, reading) ← readDocument.run { tokens }
  let _ ← (readEnd (reading.tokens.length + 1)).run reading
  return node

end Node

end SoapDispatch.Yaml
