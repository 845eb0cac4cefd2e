import SoapDispatch.Text.Blank
import SoapDispatch.Xml.Element

/-!
# Writing documents

The written form of an element. Every tree can be written. Without indentation the nodes follow one
another as they stand; with it, markup that does not touch character data is put on lines of its
own, two spaces deeper than the element it stands in.

A namespace binding is declared where it comes into use: at an element whose tag has it, unless an
open ancestor has declared the very same pair.
-/

namespace SoapDispatch.Xml

open SoapDispatch.Text

/-- A character as it is written in character data. -/
def escapeText : Char → List Char
  | '&' => ['&', 'a', 'm', 'p', ';']
  | '<' => ['&', 'l', 't', ';']
  | '>' => ['&', 'g', 't', ';']
  | c => [c]

/-- A character as it is written in an attribute value. -/
def escapeValue : Char → List Char
  | '&' => ['&', 'a', 'm', 'p', ';']
  | '<' => ['&', 'l', 't', ';']
  | '>' => ['&', 'g', 't', ';']
  | '"' => ['&', 'q', 'u', 'o', 't', ';']
  | '\'' => ['&', 'a', 'p', 'o', 's', ';']
  | '\n' => ['&', '#', 'x', 'A', ';']
  | '\r' => ['&', '#', 'x', 'D', ';']
  | c => [c]

/-- The content of a CDATA section, cut wherever it would end the section early. -/
def splitCdata : List Char → List Char
  | ']' :: ']' :: '>' :: rest => "]]]]><![CDATA[>".toList ++ splitCdata rest
  | c :: rest => c :: splitCdata rest
  | [] => []

/-- The content of a comment with every double hyphen broken up. -/
def loosenHyphens : List Char → List Char
  | '-' :: '-' :: rest => '-' :: ' ' :: loosenHyphens rest
  | c :: rest => c :: loosenHyphens rest
  | [] => []

/-- A space, unless the given character is there and blank. -/
def paddingBeside (neighbour : Option Char) : List Char :=
  if neighbour.any isBlankChar then [] else [' ']

/-- A comment: its content stands off its delimiters by white space. -/
def writeComment (content : String) : List Char :=
  let chars := content.toList
  "<!--".toList ++ paddingBeside chars.head? ++ loosenHyphens chars ++
    paddingBeside chars.getLast? ++ "-->".toList

/-- A processing instruction, with or without data. -/
def writeInstruction (target : String) : Option String → List Char
  | some data => "<?".toList ++ target.toList ++ ' ' :: data.toList ++ "?>".toList
  | none => "<?".toList ++ target.toList ++ "?>".toList

/-- A key with its value, as in a start tag. -/
def writeAttribute (pair : String × String) : List Char :=
  ' ' :: pair.1.toList ++ '=' :: '"' :: pair.2.toList.flatMap escapeValue ++ ['"']

/-- The declaration of a namespace binding. -/
def writeBinding (binding : String × String) : List Char :=
  writeAttribute (if binding.1 = "" then "xmlns" else "xmlns:" ++ binding.1, binding.2)

namespace Tag

/-- The name as it is written. -/
def writtenName (tag : Tag) : List Char :=
  match tag.qualifier with
  | some qualifier => qualifier.toList ++ ':' :: tag.name.toList
  | none => tag.name.toList

/-- The bindings that the tag has to declare, given those its ancestors have declared. -/
def newBindings (tag : Tag) (declared : Bindings) : Bindings :=
  tag.bindings.telling.filter fun binding => !declared.contains binding

/-- The start tag up to, and without, the characters that close it. -/
def writeOpening (tag : Tag) (declared : Bindings) : List Char :=
  '<' :: tag.writtenName ++ (tag.newBindings declared).flatMap writeBinding ++
    tag.attributes.flatMap writeAttribute

/-- The end tag. -/
def writeClosing (tag : Tag) : List Char :=
  '<' :: '/' :: tag.writtenName ++ ['>']

end Tag

/-- What was written last among the nodes of one parent. -/
inductive Neighbour where
  /-- Nothing at all. -/
  | nothing
  /-- A tag, a comment, a processing instruction or the declaration. -/
  | markup
  /-- Character data. -/
  | characters
deriving DecidableEq, Repr

/-- How a node appears to the one that follows it. -/
def Node.asNeighbour : Node → Neighbour
  | .text _ => .characters
  | .cdata _ => .characters
  | _ => .markup

/-- The line break and indentation before markup inside `depth` open elements. -/
def lineBreak (depth : Nat) : List Char :=
  '\n' :: List.replicate (2 * depth) ' '

/-- What precedes markup: a new line, except beside character data and at the very start. -/
def lead (indent : Bool) (depth : Nat) (last : Neighbour) : List Char :=
  if indent && last != .characters && (0 < depth || last == .markup) then lineBreak depth else []

/-- What precedes an end tag: a new line if the last node before it was markup. -/
def tail (indent : Bool) (depth : Nat) (last : Neighbour) : List Char :=
  if indent && last == .markup then lineBreak depth else []

/-- A CDATA section, or several if the content would end the first one early. -/
def writeCdata (content : String) : List Char :=
  "<![CDATA[".toList ++ splitCdata content.toList ++ "]]>".toList

/-- What follows the opening of a start tag, given the written form of the children. -/
def writeInterior (indent : Bool) (depth : Nat) (tag : Tag) (children : List Node)
    (written : List Char) : List Char :=
  if children.isEmpty then [' ', '/', '>']
  else
    '>' :: written ++ tail indent depth (children.getLast?.elim .nothing Node.asNeighbour) ++
      tag.writeClosing

mutual

/-- A node inside `depth` open elements, after a neighbour, where ancestors declared bindings. -/
def writeNode (indent : Bool) (declared : Bindings) (depth : Nat) (last : Neighbour) :
    Node → List Char
  | .text content => content.toList.flatMap escapeText
  | .cdata content => writeCdata content
  | .comment content => lead indent depth last ++ writeComment content
  | .instruction target data => lead indent depth last ++ writeInstruction target data
  | .element tag children =>
    lead indent depth last ++ tag.writeOpening declared ++
      writeInterior indent depth tag children
        (writeNodes indent (tag.newBindings declared ++ declared) (depth + 1) .markup children)

/-- Nodes one after the other. -/
def writeNodes (indent : Bool) (declared : Bindings) (depth : Nat) (last : Neighbour) :
    List Node → List Char
  | [] => []
  | node :: rest =>
    writeNode indent declared depth last node ++
      writeNodes indent declared depth node.asNeighbour rest

end

/-- The declaration that may precede a document. -/
def declarationText : List Char :=
  "<?xml version=\"1.0\" encoding=\"UTF-8\"?>".toList

namespace Element

/-- The characters of the document whose root is the element. -/
def writeChars (element : Element) (declaration indent : Bool) : List Char :=
  if declaration then declarationText ++ writeNode indent [] 0 .markup element.toNode
  else writeNode indent [] 0 .nothing element.toNode

/-- The document whose root is the element, with or without a declaration and indentation. -/
def write (element : Element) (declaration indent : Bool) : String :=
  String.ofList (element.writeChars declaration indent)

end Element

/-- Character data is escaped character by character. -/
@[simp] theorem writeNode_text (indent : Bool) (declared : Bindings) (depth : Nat)
    (last : Neighbour) (content : String) :
    writeNode indent declared depth last (.text content) = content.toList.flatMap escapeText := by
  rw [writeNode]

/-- Without indentation nothing is written between nodes. -/
@[simp] theorem lead_false (depth : Nat) (last : Neighbour) : lead false depth last = [] := rfl

/-- Without indentation nothing is written before an end tag. -/
@[simp] theorem tail_false (depth : Nat) (last : Neighbour) : tail false depth last = [] := rfl

end SoapDispatch.Xml
