/-!
# YAML tokens

The pieces a YAML document is read as. Indentation is made explicit: a block collection starts with
a token of its own and ends with `blockEnd`.
-/

namespace SoapDispatch.Yaml

/-- Why a text is no YAML document. -/
inductive Refusal where
  | illegalCharacter (code : Nat)
  | malformedDirective
  | malformedScalar
  | malformedAnchor
  | malformedTag
  /-- A tag handle that no directive explains. -/
  | unknownHandle (handle : String)
  /-- A tab where indentation is expected. -/
  | tabIndentation
  /-- A line that has to be a key is not followed by a colon. -/
  | missingColon
  | misplacedIndicator
  | unexpectedToken
  | unknownAlias (name : String)
  | duplicateKey
  /-- A directive that occurs twice. -/
  | repeatedDirective
  /-- An integer of more than 64 bits. -/
  | oversizedInteger
  /-- A scalar that is no value of the type its tag names. -/
  | malformedCoreValue (tag : String)
  /-- Collections nested too deeply, as when an alias stands for a node it is part of. -/
  | tooDeep
  /-- Too many nodes by way of aliases. -/
  | tooManyAliases
  | severalDocuments
deriving DecidableEq, Repr

/-- A piece of a document. -/
inductive Token where
  /-- The directive that names the YAML version. -/
  | versionDirective
  /-- The directive that says what a tag handle stands for. -/
  | tagDirective (handle : String) (address : List UInt8)
  | documentStart
  | documentEnd
  | blockSequenceStart
  | blockMappingStart
  | blockEnd
  | flowSequenceStart
  | flowSequenceEnd
  | flowMappingStart
  | flowMappingEnd
  | blockEntry
  | flowEntry
  | key
  | value
  | alias (name : String)
  | anchor (name : String)
  /-- A tag: a handle and the bytes that follow it. A tag in full has an empty handle. -/
  | tag (handle : String) (suffix : List UInt8)
  /-- A scalar; `plain` if it is written without quotes or a block indicator. -/
  | scalar (text : String) (plain : Bool)
deriving DecidableEq, Repr

end SoapDispatch.Yaml
