import SoapDispatch.Xml.Value

/-!
# The document declaration

A document may begin with a declaration of its version, its encoding and whether it stands alone, in
this order; the last two may be left out. The version holds from where it is declared. Items are
known by the local parts of their names behind the first letter.
-/

namespace SoapDispatch.Xml

/-- What a declaration can say. -/
inductive Declaration.Item where
  | version
  | encoding
  | standalone
deriving DecidableEq, Repr

/-- Where in a declaration its reading stands. -/
inductive Declaration.Position where
  /-- Between items, the last of them being given; `spaced` behind white space. -/
  | between (last : Option Item) (spaced : Bool)
  | name (item : Item) (name : PartialName)
  | equals (item : Item)
  | value (item : Item) (value : PartialValue)
deriving DecidableEq, Repr

/-- A declaration as far as it has been read. -/
structure Declaration where
  position : Declaration.Position := .between none true
  version : Version := .v10
  encoding : Option String := none
deriving DecidableEq, Repr

namespace Declaration

/-- The item that starts with a letter behind another item. -/
def Item.following? (last : Option Item) (c : Char) : Option Item :=
  match last with
  | none => if c = 'v' then some .version else none
  | some .version =>
    if c = 'e' then some .encoding else if c = 's' then some .standalone else none
  | some .encoding => if c = 's' then some .standalone else none
  | some .standalone => none

/-- The name of an item without its first letter. -/
def Item.ending : Item → String
  | version => "ersion"
  | encoding => "ncoding"
  | standalone => "tandalone"

/-- The version that a declaration names. -/
def versionOf? (label : String) : Option Version :=
  if label = "1.0" then some .v10 else if label = "1.1" then some .v11 else none

/-- Takes in the value of an item. -/
def accept (declaration : Declaration) (item : Item) (value : String) :
    Except ReadError Declaration :=
  let behind := { declaration with position := .between (some item) false }
  match item with
  | .version =>
    match versionOf? value with
    | some version => .ok { behind with version }
    | none => .error .malformedDeclaration
  | .encoding => .ok { behind with encoding := some value }
  | .standalone =>
    if value = "yes" || value = "no" then .ok behind else .error .malformedDeclaration

/-- The declaration behind the name of an item. -/
def named (declaration : Declaration) (item : Item) (name : PartialName) (position : Position) :
    Except ReadError (Progress Declaration Declaration) := do
  let complete ← name.complete
  if complete.base = item.ending then .ok (.more { declaration with position })
  else .error .malformedDeclaration

/-- Takes a token into a declaration. -/
def step (declaration : Declaration) (token : Token) :
    Except ReadError (Progress Declaration Declaration) :=
  match declaration.position, token with
  | .between last _, .instructionEnd =>
    if last.isSome then .ok (.done declaration) else .error .malformedDeclaration
  | .between last spaced, .character c =>
    if isSpace c then .ok (.more { declaration with position := .between last true })
    else
      match if spaced then Item.following? last c else none with
      | some item => .ok (.more { declaration with position := .name item {} })
      | none => .error .malformedDeclaration
  | .name item name, .equals => declaration.named item name (.value item .unopened)
  | .name item name, .character c =>
    if isSpace c then declaration.named item name (.equals item)
    else do .ok (.more { declaration with position := .name item (← name.push c) })
  | .equals item, .equals =>
    .ok (.more { declaration with position := .value item .unopened })
  | .equals _, token =>
    if token.isSpace then .ok (.more declaration) else .error .malformedDeclaration
  | .value item value, token => do
    match ← value.step declaration.version [] token with
    | .more value => .ok (.more { declaration with position := .value item value })
    | .done value => do .ok (.more (← declaration.accept item value))
  | _, _ => .error .malformedDeclaration

end Declaration

end SoapDispatch.Xml
