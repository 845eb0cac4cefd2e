import SoapDispatch.Text.Utf8
import SoapDispatch.Xml.ReadError

/-!
# Encodings of documents

A document is bytes in one of a few encodings. A byte order mark settles which one; without a mark a
document starts out in UTF-8, and its declaration may name another encoding of single bytes for
what follows it.
-/

namespace SoapDispatch.Xml

open SoapDispatch.Text

/-- The encodings a document can be in. -/
inductive Encoding where
  | utf8
  | latin1
  | ascii
  | utf16 (bigEndian : Bool)
deriving DecidableEq, Repr

namespace Encoding

/-- The code units of two bytes each that bytes consist of, if their number is even. -/
def units? (bigEndian : Bool) : List UInt8 → Option (List Nat)
  | [] => some []
  | first :: second :: rest =>
    let unit := if bigEndian then first.toNat * 256 + second.toNat
      else second.toNat * 256 + first.toNat
    (units? bigEndian rest).map (unit :: ·)
  | [_] => none

/-- The text that UTF-16 code units are; every surrogate must stand in a pair. -/
def ofUnits? : List Nat → Option (List Char)
  | [] => some []
  | unit :: rest =>
    if unit < 0xD800 || 0xDFFF < unit then (ofUnits? rest).map (Char.ofNat unit :: ·)
    else
      match rest with
      | low :: rest =>
        if unit < 0xDC00 && 0xDC00 ≤ low && low ≤ 0xDFFF then
          (ofUnits? rest).map
            (Char.ofNat (0x10000 + (unit - 0xD800) * 0x400 + (low - 0xDC00)) :: ·)
        else none
      | [] => none

/-- The text that bytes are in an encoding, if they are one. -/
def decode? : Encoding → List UInt8 → Option (List Char)
  | .utf8, bytes => (Utf8.decode? bytes).map String.toList
  | .latin1, bytes => some (bytes.map fun byte => Char.ofNat byte.toNat)
  | .ascii, bytes =>
    if bytes.all (· < 0x80) then some (bytes.map fun byte => Char.ofNat byte.toNat) else none
  | .utf16 bigEndian, bytes => (units? bigEndian bytes).bind ofUnits?

/-- What a byte order mark says, and the bytes after it. -/
def marked? : List UInt8 → Option (Encoding × List UInt8)
  | 0xEF :: 0xBB :: 0xBF :: rest => some (.utf8, rest)
  | 0xFE :: 0xFF :: rest => some (.utf16 true, rest)
  | 0xFF :: 0xFE :: rest => some (.utf16 false, rest)
  | _ => none

/-- Whether a label agrees, up to case, with a name as far as the shorter of the two goes. -/
def agrees (label name : String) : Bool :=
  (label.toList.zip name.toList).all fun pair => pair.1.toLower == pair.2

/-- A declared encoding: one that is known from its label, or UTF-16 in whatever byte order. -/
inductive Declared where
  | bytes (encoding : Encoding)
  | utf16
deriving DecidableEq, Repr

/-- The encoding that a label in a declaration stands for. -/
def Declared.ofLabel? (label : String) : Option Declared :=
  if agrees label "utf-8" || agrees label "utf8" then some (.bytes .utf8)
  else if agrees label "iso-8859-1" || agrees label "latin1" then some (.bytes .latin1)
  else if agrees label "utf-16" || agrees label "utf16" then some .utf16
  else if agrees label "ascii" || agrees label "us-ascii" then some (.bytes .ascii)
  else none

/-- The encoding that holds after a declaration with this label, in a document that has started out
in `current`; `marked` tells whether a byte order mark said so. -/
def afterDeclaration (current : Encoding) (marked : Bool) (label : Option String) :
    Except ReadError Encoding :=
  match label with
  | none => .ok current
  | some label =>
    match Declared.ofLabel? label with
    | none => .error (.unknownEncoding label)
    | some (.bytes encoding) =>
      if encoding = current || (!marked && current = .utf8) then .ok encoding
      else .error (.conflictingEncoding label)
    | some .utf16 =>
      match current with
      | .utf16 _ => .ok current
      | _ => .error (.conflictingEncoding label)

end Encoding

end SoapDispatch.Xml
