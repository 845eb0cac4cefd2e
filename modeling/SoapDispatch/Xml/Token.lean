import SoapDispatch.Xml.Character

/-!
# Tokens

A document is cut into tokens before anything is made of them. Most tokens are single characters;
the others are the delimiters of the grammar, each with one spelling. A delimiter that stands where
it delimits nothing counts as the text it is spelled with.
-/

namespace SoapDispatch.Xml

/-- The two marks that literals stand between. -/
inductive Quote where
  | single
  | double
deriving DecidableEq, Repr

/-- The character that a mark is. -/
def Quote.character : Quote → Char
  | single => '\''
  | double => '"'

/-- What a document is cut into. -/
inductive Token where
  | character (c : Char)
  | quote (mark : Quote)
  | equals
  | tagStart
  | endTagStart
  | tagEnd
  | emptyTagEnd
  | referenceStart
  | referenceEnd
  | commentStart
  | commentEnd
  | cdataStart
  | cdataEnd
  | instructionStart
  | instructionEnd
  | doctypeStart
  /-- The start of a markup declaration. -/
  | declarationStart
deriving DecidableEq, Repr

namespace Token

/-- How a token is spelled. -/
def spelling : Token → List Char
  | character c => [c]
  | quote mark => [mark.character]
  | equals => ['=']
  | tagStart => ['<']
  | endTagStart => ['<', '/']
  | tagEnd => ['>']
  | emptyTagEnd => ['/', '>']
  | referenceStart => ['&']
  | referenceEnd => [';']
  | commentStart => ['<', '!', '-', '-']
  | commentEnd => ['-', '-', '>']
  | cdataStart => ['<', '!', '[', 'C', 'D', 'A', 'T', 'A', '[']
  | cdataEnd => [']', ']', '>']
  | instructionStart => ['<', '?']
  | instructionEnd => ['?', '>']
  | doctypeStart => ['<', '!', 'D', 'O', 'C', 'T', 'Y', 'P', 'E']
  | declarationStart => ['<', '!']

/-- No token is spelled with nothing. -/
theorem spelling_ne_nil (token : Token) : token.spelling ≠ [] := by
  cases token <;> simp [spelling]

/-- The delimiter that a single character is in text and tags, or the character itself. -/
def ofChar (c : Char) : Token :=
  match c with
  | '>' => tagEnd
  | '=' => equals
  | '"' => quote .double
  | '\'' => quote .single
  | '&' => referenceStart
  | ';' => referenceEnd
  | c => character c

@[simp] theorem spelling_ofChar (c : Char) : (ofChar c).spelling = [c] := by
  unfold ofChar
  split <;> rfl

/-- Whether a token is a character of white space. -/
def isSpace : Token → Bool
  | character c => Xml.isSpace c
  | _ => false

end Token

end SoapDispatch.Xml
