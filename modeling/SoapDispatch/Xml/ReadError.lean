/-!
# Why a document is refused

Reading a document either gives its tree or stops at the first violation. The causes below are told
apart for whoever reads the message; no caller decides anything by them.
-/

namespace SoapDispatch.Xml

/-- The ways in which a document can violate the grammar. -/
inductive ReadError where
  /-- The bytes are no text in the encoding of the document. -/
  | undecodable
  | unknownEncoding (label : String)
  /-- The declared encoding is not the one the document is in. -/
  | conflictingEncoding (label : String)
  | malformedDeclaration
  /-- A `<` that starts no markup. -/
  | malformedMarkup
  | malformedDoctype
  | malformedName
  | malformedTag
  | malformedValue
  | malformedReference
  | malformedComment
  | malformedInstruction
  | illegalCharacter (code : Nat)
  | unknownEntity (name : String)
  /-- Replacement texts keep producing references. -/
  | endlessEntity
  | duplicateAttribute (name : String)
  | unboundQualifier (qualifier : String)
  /-- A reserved qualifier or namespace is bound or used where that is not allowed. -/
  | reservedName (name : String)
  /-- `]]>` in character data. -/
  | strayCdataEnd
  /-- Character data, a reference or an end tag where no element is open. -/
  | outsideRoot
  | mismatchedEndTag (name : String)
  | misplacedDoctype
  | unexpectedEnd
  | missingRoot
deriving DecidableEq, Repr

namespace ReadError

/-- The wording of a refusal. -/
def message : ReadError → String
  | undecodable => "the bytes are not text in the document's encoding"
  | unknownEncoding label => "unknown encoding " ++ label
  | conflictingEncoding label => "the document is not encoded in " ++ label
  | malformedDeclaration => "malformed document declaration"
  | malformedMarkup => "markup of no known kind"
  | malformedDoctype => "malformed document type declaration"
  | malformedName => "malformed name"
  | malformedTag => "malformed tag"
  | malformedValue => "malformed attribute value"
  | malformedReference => "malformed reference"
  | malformedComment => "malformed comment"
  | malformedInstruction => "malformed processing instruction"
  | illegalCharacter code => "illegal character with code " ++ toString code
  | unknownEntity name => "unknown entity " ++ name
  | endlessEntity => "entity replacement does not come to an end"
  | duplicateAttribute name => "attribute " ++ name ++ " is given twice"
  | unboundQualifier qualifier => "qualifier " ++ qualifier ++ " is not bound"
  | reservedName name => name ++ " is reserved"
  | strayCdataEnd => "]]> in character data"
  | outsideRoot => "content outside of the root element"
  | mismatchedEndTag name => "end tag " ++ name ++ " closes no open element"
  | misplacedDoctype => "misplaced document type declaration"
  | unexpectedEnd => "unexpected end of document"
  | missingRoot => "no root element"

end ReadError

end SoapDispatch.Xml
