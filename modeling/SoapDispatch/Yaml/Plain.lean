import SoapDispatch.Text.Digits
import SoapDispatch.Yaml.Token
import SoapDispatch.Yaml.Value

/-!
# Plain scalars

What a scalar without quotes stands for: nothing, a truth value, a number, or else text. Integers
have 64 bits; those that need up to 128 bits are refused, and a decimal that needs still more is a
fraction, as is one with a point or an exponent. A number with a superfluous leading zero is text.
-/

namespace SoapDispatch.Yaml

open SoapDispatch.Text

/-- The digit of a base up to ten. -/
def smallDigit? (base : Nat) (c : Char) : Option Nat :=
  (decimalDigit? c).filter (· < base)

/-- The number that characters denote after a mark of the base, such as `0x`. -/
def markedNumber? : List Char → Option Nat
  | '0' :: 'x' :: digits => numberOf? 16 hexDigit? digits
  | '0' :: 'o' :: digits => numberOf? 8 (smallDigit? 8) digits
  | '0' :: 'b' :: digits => numberOf? 2 (smallDigit? 2) digits
  | _ => none

/-- Whether digits start with a zero that is not the whole number. -/
def hasLeadingZero : List Char → Bool
  | '0' :: rest => !rest.isEmpty && rest.all fun c => (decimalDigit? c).isSome
  | _ => false

/-- The sign in front of a number, and what follows it. -/
def splitSign : List Char → Bool × List Char
  | '-' :: rest => (true, rest)
  | '+' :: rest => (false, rest)
  | chars => (false, chars)

/-- The natural number that characters without a sign denote. -/
def natural? (chars : List Char) : Option Nat :=
  (markedNumber? chars).or (if hasLeadingZero chars then none else numberOf? 10 decimalDigit? chars)

/-- The integer that characters denote, if they denote one of 128 bits. One that has more than 64
bits cannot be kept. -/
def integer? (chars : List Char) : Option (Except Refusal Int) :=
  let (negative, digits) := splitSign chars
  (natural? digits).bind fun magnitude =>
    let (kept, known) :=
      if negative then
        (decide (magnitude ≤ Nat.pow 2 63), decide (magnitude ≤ Nat.pow 2 127))
      else (decide (magnitude < Nat.pow 2 64), decide (magnitude < Nat.pow 2 128))
    if kept then some (.ok (if negative then -(magnitude : Int) else magnitude))
    else if known then some (.error .oversizedInteger)
    else none

/-- The digits at the front, and what follows them. -/
def splitDigits (chars : List Char) : List Char × List Char :=
  chars.span fun c => (decimalDigit? c).isSome

/-- The exponent that ends a fraction; none is an exponent of zero. -/
def exponent? : List Char → Option Int
  | [] => some 0
  | mark :: rest =>
    if mark = 'e' || mark = 'E' then
      let (negative, digits) := splitSign rest
      (numberOf? 10 decimalDigit? digits).map fun magnitude =>
        if negative then -(magnitude : Int) else magnitude
    else none

/-- The digits before and after the point of a fraction without a sign, and its exponent. -/
def fractionParts? (chars : List Char) : Option (List Char × List Char × Int) :=
  let (whole, rest) := splitDigits chars
  let (part, rest) :=
    match rest with
    | '.' :: after => splitDigits after
    | _ => ([], rest)
  if whole.isEmpty && part.isEmpty then none
  else (exponent? rest).map fun exponent => (whole, part, exponent)

/-- The special number that characters denote. -/
def special? (chars : List Char) : Option Real :=
  let (negative, word) := splitSign chars
  let word := String.ofList word
  if word = ".inf" || word = ".Inf" || word = ".INF" then some (.infinite negative)
  else if chars.head? = some '.' && (word = ".nan" || word = ".NaN" || word = ".NAN") then
    some .undefined
  else none

/-- The fraction that characters denote, if it is not too great. -/
def real? (chars : List Char) : Option Real :=
  let (negative, digits) := splitSign chars
  (special? chars).or <|
    (fractionParts? digits).bind fun (whole, part, exponent) =>
      Real.ofDecimal? negative ((numberOf? 10 decimalDigit? (whole ++ part)).getD 0)
        (exponent - part.length)

/-- The truth value that a word denotes. -/
def bool? (text : String) : Option Bool :=
  if text = "true" || text = "True" || text = "TRUE" then some true
  else if text = "false" || text = "False" || text = "FALSE" then some false
  else none

/-- Whether a word denotes nothing. -/
def isNull (text : String) : Bool :=
  text = "" || text = "~" || text = "null" || text = "Null" || text = "NULL"

/-- The value of a plain scalar that denotes neither nothing nor a truth value. -/
def numberOrText (text : String) : Except Refusal Value :=
  match integer? text.toList with
  | some integer => integer.map .int
  | none =>
    if hasLeadingZero (splitSign text.toList).2 then .ok (.text text)
    else .ok ((real? text.toList).elim (.text text) .real)

/-- The value that a plain scalar stands for. -/
def plainValue (text : String) : Except Refusal Value :=
  if isNull text then .ok .null
  else
    match bool? text with
    | some value => .ok (.bool value)
    | none => numberOrText text

end SoapDispatch.Yaml
