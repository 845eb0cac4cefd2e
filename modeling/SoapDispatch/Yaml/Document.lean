import SoapDispatch.Yaml.Node
import SoapDispatch.Yaml.Plain

/-!
# Documents

The value that a YAML text stands for. An alias stands for the node with its anchor, wherever that
node is; the depth of collections and the number of aliases that are followed are limited, so that
every document has a value of finite size or is refused. A mapping must not hold a key twice.
-/

namespace SoapDispatch.Yaml

namespace Node

mutual

/-- How many marks of scalars, aliases and of starts and ends of collections a node is made of. -/
def size : Node → Nat
  | .alias _ => 1
  | .scalar _ _ _ => 1
  | .sequence _ items => sizeOfItems items + 2
  | .mapping _ entries => sizeOfEntries entries + 2

/-- The size of items together. -/
def sizeOfItems : List Node → Nat
  | [] => 0
  | item :: rest => size item + sizeOfItems rest

/-- The size of entries together. -/
def sizeOfEntries : List (Node × Node) → Nat
  | [] => 0
  | (key, value) :: rest => size key + size value + sizeOfEntries rest

end

/-- A node with the number of its anchor, if it has one. -/
def anchored (marks : Marks) (node : Node) : List (Nat × Node) :=
  (marks.anchor.map fun anchor => (anchor, node)).toList

mutual

/-- The nodes that have anchors, in the order of the document. -/
def anchors : Node → List (Nat × Node)
  | .alias _ => []
  | .scalar marks text plain => anchored marks (.scalar marks text plain)
  | .sequence marks items => anchored marks (.sequence marks items) ++ anchorsOfItems items
  | .mapping marks entries => anchored marks (.mapping marks entries) ++ anchorsOfEntries entries

/-- The anchors within items. -/
def anchorsOfItems : List Node → List (Nat × Node)
  | [] => []
  | item :: rest => anchors item ++ anchorsOfItems rest

/-- The anchors within entries. -/
def anchorsOfEntries : List (Node × Node) → List (Nat × Node)
  | [] => []
  | (key, value) :: rest => anchors key ++ anchors value ++ anchorsOfEntries rest

end

end Node

/-- A tag without the mark in front, unless it is nothing but the mark. -/
def unmarked : List UInt8 → List UInt8
  | 0x21 :: byte :: name => byte :: name
  | tag => tag

/-- The name of a tag that a document gives to a value of its own kind: without marks in front. Such
a tag starts with a mark and is text. -/
def ownTag? (tag : List UInt8) : Option String :=
  if tag.head? = some 0x21 then Text.Utf8.decode? (unmarked (unmarked tag)) else none

/-- Puts a tag of the document's own around a value. -/
def withTag (tag : Option (List UInt8)) (value : Value) : Value :=
  match tag.bind ownTag? with
  | some name => .tagged name value
  | none => value

/-- The types that every document has tags for. -/
inductive CoreType where
  | bool
  | int
  | float
  | null
deriving DecidableEq, Repr

namespace CoreType

/-- The tag of a type. -/
def tag : CoreType → String
  | bool => "tag:yaml.org,2002:bool"
  | int => "tag:yaml.org,2002:int"
  | float => "tag:yaml.org,2002:float"
  | null => "tag:yaml.org,2002:null"

/-- The type that a tag asks for. -/
def ofTag? (bytes : List UInt8) : Option CoreType :=
  [bool, int, float, null].find? fun type => Text.Utf8.encode type.tag == bytes

/-- The value of a type that a text stands for, if it stands for one. -/
def value? (type : CoreType) (text : String) : Option (Except Refusal Value) :=
  match type with
  | bool => (bool? text).map (.ok ∘ .bool)
  | int => (integer? text.toList).map (·.map .int)
  | float => (real? text.toList).map (.ok ∘ .real)
  | null => if text != "" && isNull text then some (.ok .null) else none

end CoreType

/-- The value of a scalar. A tag of a core type asks for a value of that type; any other tag that is
not the document's own makes the scalar text. -/
def scalarValue (tag : Option (List UInt8)) (text : String) (plain : Bool) :
    Except Refusal Value :=
  let untagged := if plain then plainValue text else .ok (.text text)
  match tag with
  | none => untagged
  | some tag =>
    match ownTag? tag, CoreType.ofTag? tag with
    | some name, _ => untagged.map (.tagged name)
    | none, some type => (type.value? text).getD (.error (.malformedCoreValue type.tag))
    | none, none => if tag.head? = some 0x21 then untagged else .ok (.text text)

/-- How aliases are followed. -/
structure Aliases where
  /-- The nodes by anchor, latest first. -/
  anchors : List (Nat × Node)
  /-- How many may be followed. -/
  limit : Nat

/-- A step of evaluation, which counts the aliases followed. -/
abbrev Evaluator := StateT Nat (Except Refusal)

/-- The node that a node stands for. -/
def Aliases.follow (aliases : Aliases) (node : Node) : Evaluator Node :=
  match node with
  | .alias anchor => do
    let followed ← get
    if aliases.limit ≤ followed then throw .tooManyAliases
    set (followed + 1)
    match aliases.anchors.lookup anchor with
    | some target => return target
    | none => throw .unexpectedToken
  | node => return node

/-- Puts entries together to those of a mapping, whose keys must differ. -/
def distinctEntries : List (Value × Value) → Except Refusal (List (Value × Value))
  | [] => .ok []
  | entry :: rest =>
    if rest.any fun other => entry.1.agrees other.1 then .error .duplicateKey
    else (distinctEntries rest).map (entry :: ·)

/-- The value of a node within which so many collections may be nested. -/
def valueOf (aliases : Aliases) : Nat → Node → Evaluator Value
  | 0, node => do
    match ← aliases.follow node with
    | .scalar marks text plain => scalarValue marks.tag text plain
    | _ => throw .tooDeep
  | depth + 1, node => do
    match ← aliases.follow node with
    | .scalar marks text plain => scalarValue marks.tag text plain
    | .sequence marks items =>
      return withTag marks.tag (.sequence (← items.mapM (valueOf aliases depth)))
    | .mapping marks entries =>
      let values ← entries.mapM fun entry => do
        return (← valueOf aliases depth entry.1, ← valueOf aliases depth entry.2)
      return withTag marks.tag (.mapping (← distinctEntries values))
    | .alias _ => throw .unexpectedToken

/-- How many collections may be nested. -/
def depthLimit : Nat := 128

/-- How many aliases may be followed for each part of the document. -/
def aliasFactor : Nat := 100

/-- The value that a YAML text stands for; a text without a document stands for nothing. -/
def read (text : String) : Except Refusal Value := do
  match ← Node.ofTokens (← tokensOf text) with
  | none => .ok .null
  | some node =>
    let aliases : Aliases := {
      anchors := node.anchors.reverse
      limit := aliasFactor * node.size }
    (valueOf aliases depthLimit node).run' 0

end SoapDispatch.Yaml
