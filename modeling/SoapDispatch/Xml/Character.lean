import SoapDispatch.Text.CharClass

/-!
# Characters of documents

The classes of characters that the grammar of documents is written with: white space, characters of
names, and the characters a document of either version may hold.
-/

namespace SoapDispatch.Xml

open SoapDispatch.Text

/-- The version of the grammar a document is written in. -/
inductive Version where
  | v10
  | v11
deriving DecidableEq, Repr

/-- White space of the grammar: space, tab, line feed and carriage return. -/
def isSpace (c : Char) : Bool :=
  c == ' ' || c == '\t' || c == '\n' || c == '\r'

/-- The characters a name may start with. -/
def nameStartClass : CharClass :=
  [(0x3A, 0x3A), (0x41, 0x5A), (0x5F, 0x5F), (0x61, 0x7A), (0xC0, 0xD6), (0xD8, 0xF6),
    (0xF8, 0x2FF), (0x370, 0x37D), (0x37F, 0x1FFF), (0x200C, 0x200D), (0x2070, 0x218F),
    (0x2C00, 0x2FEF), (0x3001, 0xD7FF), (0xF900, 0xFDCF), (0xFDF0, 0xFFFD), (0x10000, 0xEFFFF)]

/-- The further characters a name may go on with. -/
def nameRestClass : CharClass :=
  [(0x2D, 0x2E), (0x30, 0x39), (0xB7, 0xB7), (0x300, 0x36F), (0x203F, 0x2040)]

/-- Whether a name may start with a character; the colon is among them. -/
def isNameStart (c : Char) : Bool :=
  nameStartClass.contains c

/-- Whether a name may go on with a character. -/
def isNameChar (c : Char) : Bool :=
  nameStartClass.contains c || nameRestClass.contains c

namespace Version

/-- The characters of version 1.0. -/
def class10 : CharClass :=
  [(0x09, 0x0A), (0x0D, 0x0D), (0x20, 0xD7FF), (0xE000, 0xFFFD), (0x10000, 0x10FFFF)]

/-- The characters of version 1.1: all but NUL and the two non-characters. -/
def class11 : CharClass :=
  [(0x01, 0xD7FF), (0xE000, 0xFFFD), (0x10000, 0x10FFFF)]

/-- Control characters that version 1.1 admits by reference only. -/
def restricted11 : CharClass :=
  [(0x01, 0x08), (0x0B, 0x0C), (0x0E, 0x1F), (0x7F, 0x84), (0x86, 0x9F)]

/-- Whether a document may refer to a character by its number. -/
def admits : Version → Char → Bool
  | .v10, c => class10.contains c
  | .v11, c => class11.contains c

/-- Whether a character may stand in a document as itself. -/
def admitsLiteral : Version → Char → Bool
  | .v10, c => class10.contains c
  | .v11, c => class11.contains c && !restricted11.contains c

end Version

/-- White space may stand in every document. -/
theorem Version.admitsLiteral_of_isSpace (version : Version) {c : Char} (space : isSpace c = true) :
    version.admitsLiteral c = true := by
  simp only [isSpace, Bool.or_eq_true, beq_iff_eq] at space
  rcases space with ((rfl | rfl) | rfl) | rfl <;> cases version <;> decide

end SoapDispatch.Xml
