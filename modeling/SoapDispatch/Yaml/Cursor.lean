import SoapDispatch.Text.CharClass
import SoapDispatch.Yaml.Token

/-!
# Places in a text

A cursor is what is left of a text, with the line and the column it starts at. Line breaks are one
character each: `normalize` has made line feeds of the breaks of other systems.
-/

namespace SoapDispatch.Yaml

open SoapDispatch.Text

/-- Spaces and tabs. -/
def isSpacing (c : Char) : Bool :=
  c == ' ' || c == '\t'

/-- The characters that end a line. -/
def isBreak (c : Char) : Bool :=
  c == '\n' || c == '\u2028' || c == '\u2029'

/-- Whether a text stands at white space or at its end. -/
def atGap : List Char → Bool
  | [] => true
  | c :: _ => isSpacing c || isBreak c

/-- The text with every line break of one of the common systems made a line feed. -/
def normalize : List Char → List Char
  | '\r' :: '\n' :: rest => '\n' :: normalize rest
  | '\r' :: rest => '\n' :: normalize rest
  | '\u0085' :: rest => '\n' :: normalize rest
  | c :: rest => c :: normalize rest
  | [] => []

/-- The characters a document may hold. -/
def documentClass : CharClass :=
  [(0x09, 0x0A), (0x0D, 0x0D), (0x20, 0x7E), (0x85, 0x85), (0xA0, 0xD7FF), (0xE000, 0xFFFD),
    (0x10000, 0x10FFFF)]

/-- What is left of a text, and where. -/
structure Cursor where
  chars : List Char
  line : Nat := 0
  column : Nat := 0
  /-- How many bytes the characters before take in UTF-8. -/
  offset : Nat := 0
deriving Repr

namespace Cursor

/-- The cursor behind the next character. -/
def next (cursor : Cursor) : Cursor :=
  match cursor.chars with
  | [] => cursor
  | c :: rest =>
    let offset := cursor.offset + c.utf8Size
    if isBreak c then { chars := rest, line := cursor.line + 1, column := 0, offset }
    else { cursor with chars := rest, column := cursor.column + 1, offset }

/-- The cursor some characters further on. -/
def skip (cursor : Cursor) : Nat → Cursor
  | 0 => cursor
  | count + 1 => cursor.next.skip count

/-- The cursor at which the given end of its text starts. -/
def advanceTo (cursor : Cursor) (rest : List Char) : Cursor :=
  cursor.skip (cursor.chars.length - rest.length)

/-- Whether a marker of the start or the end of a document stands at the cursor. -/
def atMarker (cursor : Cursor) : Bool :=
  cursor.column == 0 &&
    match cursor.chars with
    | '-' :: '-' :: '-' :: rest => atGap rest
    | '.' :: '.' :: '.' :: rest => atGap rest
    | _ => false

end Cursor

end SoapDispatch.Yaml
