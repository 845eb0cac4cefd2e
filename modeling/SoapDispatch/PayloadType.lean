import SoapDispatch.Text.Blank
import SoapDispatch.Text.Lowercase

/-!
# Payload types

The four kinds of values that providers work on, with the names that declarations use for them.
-/

namespace SoapDispatch

/-- The kind of value that a provider takes and returns. -/
inductive PayloadType where
  /-- Text, or a document in written form. -/
  | text
  /-- A document as an element. -/
  | source
  /-- A whole message. -/
  | soapMessage
  /-- Bytes with a content type. -/
  | dataSource
deriving DecidableEq, Repr

namespace PayloadType

/-- Every payload type. -/
def all : List PayloadType := [text, source, soapMessage, dataSource]

/-- The name of a type in declarations. -/
def declarationName : PayloadType → String
  | text => "text"
  | source => "source"
  | soapMessage => "soap-message"
  | dataSource => "data-source"

/-- The type that a declaration names, whatever its case and the blanks around it. -/
def ofDeclaration? (name : String) : Option PayloadType :=
  all.find? fun type => type.declarationName == Text.asciiLowercase (Text.trim name)

end PayloadType

end SoapDispatch
