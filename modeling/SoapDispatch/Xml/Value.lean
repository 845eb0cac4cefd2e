import SoapDispatch.Xml.Reference
import SoapDispatch.Xml.Token

/-!
# Attribute values

A value stands between two marks of one kind. Every delimiter in it counts as its spelling, but the
start of a tag or of an instruction is refused. A reference gives its character or its replacement
text; the references in a replacement text stay as they are.
-/

namespace SoapDispatch.Xml

/-- What a token comes to where something is read: reading goes on, or that something is
complete. -/
inductive Progress (σ α : Type) where
  | more (state : σ)
  | done (result : α)
deriving Repr

/-- A value as far as it has been read, its characters with the last one first. -/
inductive PartialValue where
  | unopened
  | opened (mark : Quote) (chars : List Char)
  /-- Inside a reference. -/
  | reference (mark : Quote) (chars name : List Char)
deriving DecidableEq, Repr

namespace PartialValue

/-- What a reference puts into a value. -/
def inserted (entities : Entities) : Reference → Except ReadError (List Char)
  | .character c => .ok [c]
  | .entity name => entities.find name

/-- Takes a token into the part of a value between its marks. -/
def push (version : Version) (mark : Quote) (chars : List Char) :
    Token → Except ReadError (Progress PartialValue String)
  | .character c =>
    if version.admitsLiteral c then .ok (.more (.opened mark (c :: chars)))
    else .error (.illegalCharacter c.toNat)
  | .quote other =>
    if other = mark then .ok (.done (String.ofList chars.reverse))
    else .ok (.more (.opened mark (other.character :: chars)))
  | .referenceStart => .ok (.more (.reference mark chars []))
  | .tagStart | .instructionStart => .error .malformedValue
  | token => .ok (.more (.opened mark (token.spelling.reverse ++ chars)))

/-- Takes a token into a value. -/
def step (version : Version) (entities : Entities) (value : PartialValue) (token : Token) :
    Except ReadError (Progress PartialValue String) :=
  match value with
  | unopened =>
    match token with
    | .quote mark => .ok (.more (.opened mark []))
    | token => if token.isSpace then .ok (.more .unopened) else .error .malformedValue
  | opened mark chars => push version mark chars token
  | reference mark chars name =>
    match token with
    | .character c =>
      if Reference.admits name c then .ok (.more (.reference mark chars (c :: name)))
      else .error .malformedReference
    | .referenceEnd => do
      let text ← inserted entities (← Reference.ofChars version name.reverse)
      .ok (.more (.opened mark (text.reverse ++ chars)))
    | _ => .error .malformedReference

end PartialValue

end SoapDispatch.Xml
