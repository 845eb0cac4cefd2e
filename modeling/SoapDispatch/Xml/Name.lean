import SoapDispatch.Xml.Character
import SoapDispatch.Xml.ReadError

/-!
# Qualified names

A name is one or two runs of name characters with a colon between them; the first run starts with a
character that may start a name.
-/

namespace SoapDispatch.Xml

/-- A name with the qualifier before its colon, if it has one. -/
structure QName where
  qualifier : Option String := none
  base : String
deriving DecidableEq, Repr

namespace QName

/-- The name as it is written. -/
def written (name : QName) : String :=
  match name.qualifier with
  | some qualifier => qualifier ++ ":" ++ name.base
  | none => name.base

/-- The name that a run of name characters is, if it is one. -/
def ofChars? (chars : List Char) : Option QName :=
  if chars.head?.all fun c => !isNameStart c || c == ':' then none
  else
    match chars.span (· != ':') with
    | (all, []) => some { base := String.ofList all }
    | (qualifier, _ :: base) =>
      if base.isEmpty || base.contains ':' then none
      else some { qualifier := some (String.ofList qualifier), base := String.ofList base }

end QName

/-- A qualified name as far as it has been read. -/
structure PartialName where
  /-- The characters read so far, the last one first. -/
  chars : List Char := []
  /-- Whether no colon may follow. -/
  divided : Bool := false
deriving DecidableEq, Repr

namespace PartialName

/-- A name of which the first character has been read behind another name of the same tag. A first
character outside of ASCII leaves the new name the colon that the other one has not used. -/
def continuing (c : Char) (divided : Bool) : PartialName where
  chars := [c]
  divided := divided && 0x80 ≤ c.toNat

/-- The name with one more character. A colon may stand once, behind another character. -/
def push (name : PartialName) (c : Char) : Except ReadError PartialName :=
  if c = ':' then
    if name.chars.isEmpty || name.divided then .error .malformedName
    else .ok { chars := c :: name.chars, divided := true }
  else if if name.chars.isEmpty then isNameStart c else isNameChar c then
    .ok { name with chars := c :: name.chars }
  else .error .malformedName

/-- The name, once it is complete. -/
def complete (name : PartialName) : Except ReadError QName :=
  match QName.ofChars? name.chars.reverse with
  | some name => .ok name
  | none => .error .malformedName

end PartialName

end SoapDispatch.Xml
