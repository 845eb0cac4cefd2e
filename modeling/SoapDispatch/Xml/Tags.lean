import SoapDispatch.Xml.Value

/-!
# Tags

A start tag holds a name and attributes, each with white space before it; an end tag holds a name.
-/

namespace SoapDispatch.Xml

/-- A start tag that is complete. -/
structure StartTag where
  name : QName
  /-- The attributes in order, namespace declarations among them. -/
  attributes : List (QName × String)
  /-- Whether the tag closes itself. -/
  empty : Bool
deriving DecidableEq, Repr

/-- Where in a start tag its reading stands. -/
inductive StartTag.Position where
  | name (name : PartialName)
  /-- Behind white space. -/
  | spaced
  | attribute (name : PartialName)
  | equals (name : QName)
  | value (name : QName) (value : PartialValue)
  /-- Directly behind a value. -/
  | valued
deriving DecidableEq, Repr

/-- A start tag as far as it has been read. -/
structure PartialStartTag where
  position : StartTag.Position := .name {}
  name : QName := { base := "" }
  /-- The attributes, the last one first. -/
  attributes : List (QName × String) := []
  /-- Whether the last name of the tag has a colon. -/
  divided : Bool := false
deriving DecidableEq, Repr

namespace PartialStartTag

/-- Whether a qualifier is one that no element may have. -/
def isReserved (qualifier : Option String) : Bool :=
  qualifier == some "xml" || qualifier == some "xmlns"

/-- The complete tag. -/
def close (tag : PartialStartTag) (empty : Bool) : Progress PartialStartTag StartTag :=
  .done { name := tag.name, attributes := tag.attributes.reverse, empty }

/-- The tag behind its name. -/
def named (tag : PartialStartTag) (name : PartialName) : Except ReadError PartialStartTag := do
  let complete ← name.complete
  if isReserved complete.qualifier then .error (.reservedName complete.written)
  else .ok { tag with position := .spaced, name := complete, divided := name.divided }

/-- The tag behind the name of an attribute. -/
def attributeNamed (tag : PartialStartTag) (name : PartialName)
    (position : QName → StartTag.Position) :
    Except ReadError (Progress PartialStartTag StartTag) := do
  let complete ← name.complete
  .ok (.more { tag with position := position complete, divided := name.divided })

/-- Takes a token into a start tag. -/
def step (version : Version) (entities : Entities) (tag : PartialStartTag) (token : Token) :
    Except ReadError (Progress PartialStartTag StartTag) :=
  match tag.position, token with
  | .name name, .tagEnd => do .ok ((← tag.named name).close false)
  | .name name, .emptyTagEnd => do .ok ((← tag.named name).close true)
  | .name name, .character c =>
    if isSpace c then do .ok (.more (← tag.named name))
    else do .ok (.more { tag with position := .name (← name.push c) })
  | .spaced, .tagEnd | .valued, .tagEnd => .ok (tag.close false)
  | .spaced, .emptyTagEnd | .valued, .emptyTagEnd => .ok (tag.close true)
  | .spaced, .character c =>
    if isSpace c then .ok (.more tag)
    else if isNameStart c then
      .ok (.more { tag with position := .attribute (.continuing c tag.divided) })
    else .error .malformedTag
  | .attribute name, .equals => tag.attributeNamed name fun name => .value name .unopened
  | .attribute name, .character c =>
    if isSpace c then tag.attributeNamed name .equals
    else do .ok (.more { tag with position := .attribute (← name.push c) })
  | .equals name, .equals => .ok (.more { tag with position := .value name .unopened })
  | .equals _, token => if token.isSpace then .ok (.more tag) else .error .malformedTag
  | .value name value, token => do
    match ← value.step version entities token with
    | .more value => .ok (.more { tag with position := .value name value })
    | .done value =>
      .ok (.more { tag with position := .valued, attributes := (name, value) :: tag.attributes })
  | .valued, token =>
    if token.isSpace then .ok (.more { tag with position := .spaced }) else .error .malformedTag
  | _, _ => .error .malformedTag

end PartialStartTag

/-- An end tag as far as it has been read. -/
inductive PartialEndTag where
  | name (name : PartialName)
  | named (name : QName)
deriving DecidableEq, Repr

/-- Takes a token into an end tag. -/
def PartialEndTag.step (tag : PartialEndTag) (token : Token) :
    Except ReadError (Progress PartialEndTag QName) :=
  match tag, token with
  | .name part, .tagEnd => do .ok (.done (← part.complete))
  | .name part, .character c =>
    if isSpace c then do .ok (.more (.named (← part.complete)))
    else do .ok (.more (.name (← part.push c)))
  | .named complete, .tagEnd => .ok (.done complete)
  | .named _, token => if token.isSpace then .ok (.more tag) else .error .malformedTag
  | _, _ => .error .malformedTag

end SoapDispatch.Xml
