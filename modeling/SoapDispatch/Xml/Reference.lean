import SoapDispatch.Text.Digits
import SoapDispatch.Xml.Name

/-!
# References

A reference stands between `&` and `;`. It names a character by its number, one of the five
characters that have names of their own, or an entity that the document declares.
-/

namespace SoapDispatch.Xml

open SoapDispatch.Text

/-- Entities with their replacement texts; of two with one name, the first counts. -/
abbrev Entities := List (String × List Char)

/-- The replacement text of an entity. -/
def Entities.find (entities : Entities) (name : String) : Except ReadError (List Char) :=
  match entities.lookup name with
  | some text => .ok text
  | none => .error (.unknownEntity name)

/-- What a reference stands for. -/
inductive Reference where
  | character (c : Char)
  | entity (name : String)
deriving DecidableEq, Repr

/-- The character that a name stands for in every document. -/
def predefined? : List Char → Option Char
  | ['l', 't'] => some '<'
  | ['g', 't'] => some '>'
  | ['a', 'm', 'p'] => some '&'
  | ['a', 'p', 'o', 's'] => some '\''
  | ['q', 'u', 'o', 't'] => some '"'
  | _ => none

/-- The character with a given number, if the version of the document has it. -/
def characterOf (version : Version) (code : Nat) : Except ReadError Char :=
  if code.isValidChar && version.admits (Char.ofNat code) then .ok (Char.ofNat code)
  else .error (.illegalCharacter code)

/-- Takes one plus sign off the front of digits. -/
def withoutPlus : List Char → List Char
  | '+' :: digits => digits
  | digits => digits

/-- The character that the part of a reference after `#` stands for. -/
def numberedCharacter (version : Version) (digits : List Char) : Except ReadError Char :=
  let number? :=
    match digits with
    | 'x' :: hex => numberOf? 16 hexDigit? (withoutPlus hex)
    | _ => numberOf? 10 decimalDigit? (withoutPlus digits)
  match number? with
  | some code => characterOf version code
  | none => .error .malformedReference

namespace Reference

/-- Whether a reference can go on with a character, `name` being read of it, the last character
first. -/
def admits (name : List Char) (c : Char) : Bool :=
  if name.isEmpty then isNameStart c || c == '#' else isNameChar c

/-- The reference that stands between `&` and `;`. -/
def ofChars (version : Version) (chars : List Char) : Except ReadError Reference :=
  match chars with
  | [] => .error .malformedReference
  | '#' :: digits => do
    let c ← numberedCharacter version digits
    .ok (.character c)
  | name =>
    match predefined? name with
    | some c => .ok (.character c)
    | none => .ok (.entity (String.ofList name))

end Reference

end SoapDispatch.Xml
