import SoapDispatch.Xml.Reference
import SoapDispatch.Xml.Value

/-!
# Document type declarations

Of a document type declaration only the internal entities matter; everything else in it is passed
over. A replacement text has references to characters resolved when it is declared, and references
to entities left as they are. Parameter entities are kept among the others under names that start
with `%`, which no name in a reference does; a reference to one has its text read in its place.
-/

namespace SoapDispatch.Xml

/-- An entity whose replacement text is being read. -/
structure PartialEntity where
  name : String
  mark : Quote
  /-- The characters of the text so far, the last one first. -/
  text : List Char := []
deriving DecidableEq, Repr

/-- Where in a document type declaration its reading stands. Texts of which only a part has been
read have their last character first. -/
inductive Doctype.Position where
  /-- Between markup declarations. -/
  | between
  | literal (mark : Quote)
  | comment
  /-- In the word that a markup declaration starts with. -/
  | keyword (word : List Char)
  /-- Before the name of an entity, `parameter` behind the mark of a parameter entity. -/
  | unnamed (parameter : Bool)
  | name (name : List Char)
  | named (name : String)
  | text (entity : PartialEntity)
  /-- Behind an ampersand in a replacement text. -/
  | ampersand (entity : PartialEntity)
  /-- In a reference to a character by its number. -/
  | number (entity : PartialEntity) (digits : List Char)
  /-- In a reference to a parameter entity, in a replacement text. -/
  | insertion (entity : PartialEntity) (parameter : List Char)
  /-- In a reference to a parameter entity, between markup declarations. -/
  | parameter (name : List Char)
  /-- In what is left of a markup declaration. -/
  | skipped
deriving DecidableEq, Repr

/-- A document type declaration as far as it has been read. -/
structure Doctype where
  position : Doctype.Position := .between
  entities : Entities := []
deriving DecidableEq, Repr

namespace Doctype

/-- What a token comes to: reading goes on, perhaps with a text to be read first, or the declaration
is complete. -/
abbrev Outcome := Except ReadError (Progress (Doctype × List Char) Entities)

/-- Reading goes on at another position. -/
def moving (doctype : Doctype) (position : Position) : Outcome :=
  .ok (.more ({ doctype with position }, []))

/-- Adds an entity; what is left of its declaration is passed over. -/
def declare (doctype : Doctype) (name : String) (text : List Char) : Outcome :=
  .ok (.more ({ position := .skipped, entities := doctype.entities ++ [(name, text)] }, []))

/-- Whether a character belongs to the word a markup declaration starts with. -/
def isKeywordChar (c : Char) : Bool :=
  'A' ≤ c && c ≤ 'Z'

/-- What follows the word that a markup declaration starts with. -/
def afterKeyword (word : List Char) : Except ReadError Position :=
  let word := String.ofList word.reverse
  if word = "ENTITY" then .ok (.unnamed false)
  else if word = "ELEMENT" || word = "ATTLIST" || word = "NOTATION" then .ok .skipped
  else .error .malformedDoctype

/-- A token between markup declarations. -/
def stepBetween (doctype : Doctype) : Token → Outcome
  | .tagEnd => .ok (.done doctype.entities)
  | .declarationStart => doctype.moving (.keyword [])
  | .character '%' => doctype.moving (.parameter ['%'])
  | .commentStart => doctype.moving .comment
  | .quote mark => doctype.moving (.literal mark)
  | .cdataStart | .cdataEnd => .error .malformedDoctype
  | _ => doctype.moving .between

/-- A character in front of the name of an entity or in it. -/
def stepName (doctype : Doctype) (c : Char) : Outcome :=
  match doctype.position with
  | .unnamed parameter =>
    if isSpace c then doctype.moving (.unnamed parameter)
    else if c = '%' && !parameter then doctype.moving (.unnamed true)
    else if isNameStart c then doctype.moving (.name (c :: if parameter then ['%'] else []))
    else .error .malformedDoctype
  | .name name =>
    if isSpace c then doctype.moving (.named (String.ofList name.reverse))
    else if isNameChar c then doctype.moving (.name (c :: name))
    else .error .malformedDoctype
  | .named name =>
    if isSpace c then doctype.moving (.named name)
    else if c = 'S' || c = 'P' then doctype.declare name []
    else .error .malformedDoctype
  | _ => .error .malformedDoctype

/-- A character of a replacement text. -/
def stepText (doctype : Doctype) (version : Version) (entity : PartialEntity) (c : Char) :
    Outcome :=
  if c = '&' then doctype.moving (.ampersand entity)
  else if c = '%' then doctype.moving (.insertion entity ['%'])
  else if version.admits c then doctype.moving (.text { entity with text := c :: entity.text })
  else .error (.illegalCharacter c.toNat)

/-- A character behind an ampersand in a replacement text. -/
def stepAmpersand (doctype : Doctype) (version : Version) (entity : PartialEntity) (c : Char) :
    Outcome :=
  if c = '#' then doctype.moving (.number entity [])
  else if version.admits c then
    doctype.moving (.text { entity with text := c :: '&' :: entity.text })
  else .error (.illegalCharacter c.toNat)

/-- A character of a reference by number. -/
def stepNumber (doctype : Doctype) (version : Version) (entity : PartialEntity)
    (digits : List Char) (c : Char) : Outcome :=
  if c = ';' then do
    let numbered ← numberedCharacter version digits.reverse
    doctype.moving (.text { entity with text := numbered :: entity.text })
  else if version.admits c then doctype.moving (.number entity (c :: digits))
  else .error (.illegalCharacter c.toNat)

/-- A character of a reference to a parameter entity in a replacement text. -/
def stepInsertion (doctype : Doctype) (entity : PartialEntity) (parameter : List Char)
    (c : Char) : Outcome :=
  if isNameChar c then doctype.moving (.insertion entity (c :: parameter))
  else if c = ';' then do
    let text ← doctype.entities.find (String.ofList parameter.reverse)
    doctype.moving (.text { entity with text := text.reverse ++ entity.text })
  else .error .malformedReference

/-- A token of a reference to a parameter entity between markup declarations. -/
def stepParameter (doctype : Doctype) (name : List Char) : Token → Outcome
  | .character c =>
    if isNameChar c then doctype.moving (.parameter (c :: name)) else .error .malformedReference
  | .referenceEnd => do
    let text ← doctype.entities.find (String.ofList name.reverse)
    .ok (.more ({ doctype with position := .between }, text))
  | _ => .error .malformedReference

/-- Takes a token into a document type declaration. -/
def step (doctype : Doctype) (version : Version) (token : Token) : Outcome :=
  match doctype.position, token with
  | .between, token => doctype.stepBetween token
  | .literal mark, token =>
    doctype.moving (if token = .quote mark then .between else .literal mark)
  | .comment, token => doctype.moving (if token = .commentEnd then .between else .comment)
  | .parameter name, token => doctype.stepParameter name token
  | .skipped, token => doctype.moving (if token = .tagEnd then .between else .skipped)
  | .keyword word, .character c =>
    if isKeywordChar c then doctype.moving (.keyword (c :: word))
    else if isSpace c then do doctype.moving (← afterKeyword word)
    else .error .malformedDoctype
  | .named name, .quote mark => doctype.moving (.text { name, mark })
  | .text entity, .quote mark =>
    if mark = entity.mark then doctype.declare entity.name entity.text.reverse
    else doctype.moving (.text { entity with text := mark.character :: entity.text })
  | .text entity, .character c => doctype.stepText version entity c
  | .ampersand entity, .character c => doctype.stepAmpersand version entity c
  | .number entity digits, .character c => doctype.stepNumber version entity digits c
  | .insertion entity parameter, .character c => doctype.stepInsertion entity parameter c
  | _, .character c => doctype.stepName c
  | _, _ => .error .malformedDoctype

end Doctype

end SoapDispatch.Xml
