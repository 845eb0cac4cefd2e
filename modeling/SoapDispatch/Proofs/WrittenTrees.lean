import SoapDispatch.Proofs.WrittenTags

/-!
# Trees as they are written

A written document is read as the tree it was made from, up to what writing leaves open: names are
cut at their colons, namespace declarations written as attributes become bindings in scope, and text
without a visible character is gone. `rereadNodes` says what comes of a forest. The reader arrives
at just that for every forest of legible tags and texts in which no two texts touch.
-/

namespace SoapDispatch.Xml

/-! ## Readable forests -/

/-- Elements with legible tags, and texts that a document of version 1.0 admits, no two of which
touch. -/
inductive LegibleNodes : List Node → Prop
  | nil : LegibleNodes []
  | element {tag : Tag} {children rest : List Node} (legible : tag.Legible)
      (inside : LegibleNodes children) (behind : LegibleNodes rest) :
      LegibleNodes (.element tag children :: rest)
  | text {content : String} {rest : List Node}
      (legible : ∀ c ∈ content.toList, Version.v10.admits c = true)
      (apart : ∀ node ∈ rest.head?, node.characters? = none) (behind : LegibleNodes rest) :
      LegibleNodes (.text content :: rest)

/-- Whether a text is nothing but white space; the empty text is. -/
def isSpacing (text : String) : Bool :=
  text.toList.all isSpace

/-- What is left of a text: nothing if none of it is visible. -/
def keptText (content : String) : List Node :=
  if isSpacing content then [] else [.text content]

/-- What a tag is read as in a scope, and the scope inside of it. -/
def Tag.reread (tag : Tag) (scope declared : Bindings) : Except ReadError (Bindings × Tag) :=
  resolveTag scope tag.readName ((tag.writtenPairs declared).map readPair)

mutual

/-- What a node is read as in a scope, ancestors having declared bindings in writing. -/
def rereadNode (scope declared : Bindings) : Node → Except ReadError (List Node)
  | .element tag children => do
    let (inner, known) ← tag.reread scope declared
    let children ← rereadNodes inner (tag.newBindings declared ++ declared) children
    .ok [.element known children]
  | .text content => .ok (keptText content)
  | _ => .ok []

/-- What a forest is read as. -/
def rereadNodes (scope declared : Bindings) : List Node → Except ReadError (List Node)
  | [] => .ok []
  | node :: rest => do
    let front ← rereadNode scope declared node
    let back ← rereadNodes scope declared rest
    .ok (front ++ back)

end

/-- An element in front of a forest is read with what is in it, and then the forest. -/
theorem rereadNodes_element (scope declared : Bindings) (tag : Tag) (children rest : List Node) :
    rereadNodes scope declared (.element tag children :: rest) =
      (tag.reread scope declared).bind fun known =>
        (rereadNodes known.1 (tag.newBindings declared ++ declared) children).bind fun nodes =>
          (rereadNodes scope declared rest).map (.element known.2 nodes :: ·) := by
  rw [rereadNodes, rereadNode]
  cases tag.reread scope declared with
  | error cause => rfl
  | ok known =>
    simp only [bind, Except.bind]
    cases rereadNodes known.1 (tag.newBindings declared ++ declared) children with
    | error cause => rfl
    | ok nodes => cases rereadNodes scope declared rest <;> rfl

/-- A text in front of a forest stays there if something in it is visible. -/
theorem rereadNodes_text (scope declared : Bindings) (content : String) (rest : List Node) :
    rereadNodes scope declared (.text content :: rest) =
      (rereadNodes scope declared rest).map
        (keptText content ++ ·) := by
  rw [rereadNodes, rereadNode]
  cases rereadNodes scope declared rest <;> rfl

/-- What the root of a document is read as. -/
def Element.reread (element : Element) : Except ReadError Element := do
  let (scope, tag) ← element.tag.reread [] []
  let children ← rereadNodes scope (element.tag.newBindings []) element.children
  .ok { tag, children }

/-! ## Builders -/

namespace Builder

variable {builder : Builder}

/-- A builder without a run of text. -/
structure Settled (builder : Builder) : Prop where
  run : builder.run = []
  visible : builder.visible = false

/-- The bindings in scope in the innermost open element. -/
def scope (builder : Builder) : Bindings :=
  (builder.opened.head?.map OpenElement.scope).getD []

/-- Without a run of text there is none to end. -/
theorem Settled.flush_eq (settled : builder.Settled) : builder.flush = builder := by
  obtain ⟨opened, run, visible, roots⟩ := builder
  obtain ⟨noRun, invisible⟩ := settled
  cases noRun
  cases invisible
  rfl

/-- In an open element every node is a child of it. -/
theorem place_of_opened {inner : OpenElement} {outer : List OpenElement}
    (opened : builder.opened = inner :: outer) (node : Node) : builder.place node =
      { builder with opened := { inner with children := node :: inner.children } :: outer } := by
  rw [place, opened]

/-- Adding a node starts no run of text. -/
theorem Settled.place (settled : builder.Settled) (node : Node) :
    (builder.place node).Settled := by
  unfold Builder.place
  split
  · exact ⟨settled.run, settled.visible⟩
  · split
    · exact ⟨settled.run, settled.visible⟩
    · exact settled

/-- Behind the end of a run there is none. -/
theorem settled_flush (builder : Builder) : builder.flush.Settled := by
  have ended : Settled { builder with run := [], visible := false } := ⟨rfl, rfl⟩
  unfold flush
  split
  · exact ended.place _
  · exact ended

/-- Adding a node leaves the open elements open. -/
theorem opened_place (inside : builder.opened ≠ []) (node : Node) :
    (builder.place node).opened ≠ [] ∧ (builder.place node).scope = builder.scope := by
  obtain ⟨inner, outer, opened⟩ := List.exists_cons_of_ne_nil inside
  rw [place_of_opened opened]
  exact ⟨List.cons_ne_nil _ _, by simp [scope, opened]⟩

/-- So does the end of a run. -/
theorem opened_flush (inside : builder.opened ≠ []) :
    builder.flush.opened ≠ [] ∧ builder.flush.scope = builder.scope := by
  unfold flush
  split
  · exact @opened_place { builder with run := [], visible := false } inside _
  · exact ⟨inside, rfl⟩

/-- Characters are added to the run. -/
theorem foldl_addCharacter (builder : Builder) (content : List Char) :
    content.foldl addCharacter builder = { builder with
      run := content.reverse ++ builder.run
      visible := builder.visible || !content.all isSpace } := by
  induction content generalizing builder with
  | nil => simp
  | cons c rest inductionHypothesis =>
    rw [List.foldl_cons, inductionHypothesis]
    simp [addCharacter, Bool.or_assoc]

/-- A text ends up as a node if something in it is visible. -/
theorem Settled.flush_foldl (settled : builder.Settled) (content : String) :
    (content.toList.foldl addCharacter builder).flush =
      (keptText content).foldl Builder.place builder := by
  obtain ⟨opened, run, visible, roots⟩ := builder
  obtain ⟨noRun, invisible⟩ := settled
  cases noRun
  cases invisible
  rw [foldl_addCharacter, keptText, isSpacing]
  cases blank : content.toList.all isSpace with
  | true => simp [flush]
  | false =>
    have filled : content.toList ≠ [] := by
      intro none
      rw [none] at blank
      cases blank
    simp [flush, filled]

/-- Nodes become the children of the innermost open element. -/
theorem foldl_place {inner : OpenElement} {outer : List OpenElement}
    (opened : builder.opened = inner :: outer) (nodes : List Node) :
    nodes.foldl place builder = { builder with
      opened := { inner with children := nodes.reverse ++ inner.children } :: outer } := by
  induction nodes generalizing builder inner with
  | nil => simp [← opened]
  | cons node rest inductionHypothesis =>
    rw [List.foldl_cons, place_of_opened opened, inductionHypothesis rfl]
    simp

/-- A start tag that is read opens the element it is resolved to. -/
theorem openElement_readStart (builder : Builder) (tag : Tag) (declared : Bindings)
    (empty : Bool) : builder.openElement (tag.readStart declared empty) =
      (tag.reread builder.scope declared).map fun known =>
        if empty then builder.place (.element known.2 [])
        else { builder with opened :=
          { name := tag.readName, tag := known.2, scope := known.1 } :: builder.opened } := by
  rw [openElement, Tag.reread, Tag.readStart, scope]
  cases resolveTag ((builder.opened.head?.map OpenElement.scope).getD []) tag.readName
      ((tag.writtenPairs declared).map readPair) with
  | error cause => rfl
  | ok known => cases empty <;> rfl

/-- An element that is opened, filled and closed is added with its children. -/
theorem closeElement_foldl (builder : Builder) (name : QName) (tag : Tag) (scope : Bindings)
    (nodes : List Node) :
    (nodes.foldl place { builder with
      opened := { name, tag, scope } :: builder.opened }).closeElement name =
      .ok (builder.place (.element tag nodes)) := by
  rw [foldl_place rfl]
  simp [closeElement]

end Builder

/-! ## Forests -/

namespace Reader

variable {encoding : Option String} {stage : Stage} {builder : Builder}

/-- Without two texts that touch, markup stands behind a text. -/
theorem exists_cons_of_apart {nodes : List Node} (legible : LegibleNodes nodes)
    (apart : ∀ node ∈ nodes.head?, node.characters? = none) (declared : Bindings) (depth : Nat)
    (last : Neighbour) (outer : Tag) (rest : List Char) :
    ∃ behind, writeNodes false declared depth last nodes ++ (outer.writeClosing ++ rest) =
      '<' :: behind := by
  cases legible with
  | nil => exact ⟨_, rfl⟩
  | element => exact ⟨_, by simp [writeNodes, writeNode, Tag.writeOpening]; rfl⟩
  | text =>
    cases apart _ rfl

/-- Nodes are read up to the end tag of the element that they stand in. -/
def ReadsNodes (nodes : List Node) : Prop :=
  ∀ (encoding : Option String) (builder : Builder) (declared : Bindings) (depth : Nat)
    (last : Neighbour) (outer : Tag) (rest : List Char), builder.opened ≠ [] → outer.Legible →
    (∀ content, nodes.head? = some (.text content) → builder.Settled) →
    (amid encoding .root builder .content).run
        { chars := writeNodes false declared depth last nodes ++ (outer.writeClosing ++ rest) } =
      (rereadNodes builder.scope declared nodes).bind fun nodes =>
        ((nodes.foldl Builder.place builder.flush).closeElement outer.readName).bind fun builder =>
          (amid encoding .root builder .content).run { chars := rest }

/-- An element is read if the nodes in it are. -/
theorem run_writeElement {tag : Tag} {children : List Node} (legible : tag.Legible)
    (within : ReadsNodes children) (declared : Bindings) (depth : Nat) (last : Neighbour)
    (rest : List Char) : (amid encoding stage builder .content).run
      { chars := writeNode false declared depth last (.element tag children) ++ rest } =
    (tag.reread builder.flush.scope declared).bind fun known =>
      (rereadNodes known.1 (tag.newBindings declared ++ declared) children).bind fun nodes =>
        (amid encoding .root (builder.flush.place (.element known.2 nodes)) .content).run
          { chars := rest } := by
  have opening (empty : Bool) := @run_writeOpening encoding stage builder tag legible declared
    empty
  simp only [Builder.openElement_readStart] at opening
  rw [writeNode, lead_false, List.nil_append, List.append_assoc]
  cases children with
  | nil =>
    refine (opening true rest).trans ?_
    cases tag.reread builder.flush.scope declared <;> rfl
  | cons node others =>
    let interior : List Char := writeNodes false (tag.newBindings declared ++ declared) (depth + 1)
      .markup (node :: others) ++ (tag.writeClosing ++ rest)
    have written : writeInterior false depth tag (node :: others)
        (writeNodes false (tag.newBindings declared ++ declared) (depth + 1) .markup
          (node :: others)) ++ rest = ['>'] ++ interior := by
      simp [writeInterior, interior]
    rw [written]
    refine (opening false interior).trans ?_
    cases tag.reread builder.flush.scope declared with
    | error cause => rfl
    | ok known =>
      let entered : Builder := { builder.flush with
        opened := { name := tag.readName, tag := known.2, scope := known.1 } ::
          builder.flush.opened }
      have settled : entered.Settled := ⟨builder.settled_flush.run, builder.settled_flush.visible⟩
      have ran := within encoding entered (tag.newBindings declared ++ declared) (depth + 1)
        .markup tag rest (List.cons_ne_nil _ _) legible fun _ _ => settled
      rw [settled.flush_eq] at ran
      refine ran.trans ?_
      have scope : entered.scope = known.1 := rfl
      rw [scope]
      dsimp only [Except.bind]
      cases rereadNodes known.1 (tag.newBindings declared ++ declared) (node :: others) with
      | error cause => rfl
      | ok nodes =>
        have closed := builder.flush.closeElement_foldl tag.readName known.2 known.1 nodes
        dsimp only
        rw [closed]

/-- Forests of legible tags and texts are read. -/
theorem readsNodes {nodes : List Node} (legible : LegibleNodes nodes) : ReadsNodes nodes := by
  induction legible with
  | nil =>
    intro encoding builder declared depth last outer rest inside closing _
    exact run_writeClosing closing inside rest
  | @element tag children others legible _ behind inside later =>
    intro encoding builder declared depth last outer rest inner closing _
    obtain ⟨flushed, sameScope⟩ := Builder.opened_flush inner
    rw [writeNodes, List.append_assoc, run_writeElement legible inside, rereadNodes_element,
      sameScope]
    cases tag.reread builder.scope declared with
    | error cause => rfl
    | ok known =>
      dsimp only [Except.bind]
      cases rereadNodes known.1 (tag.newBindings declared ++ declared) children with
      | error cause => rfl
      | ok nodes =>
        have settled := builder.settled_flush.place (.element known.2 nodes)
        obtain ⟨filled, scope⟩ := Builder.opened_place flushed (.element known.2 nodes)
        dsimp only
        rw [later encoding _ declared depth _ outer rest filled closing fun _ _ => settled,
          settled.flush_eq, scope, sameScope]
        cases rereadNodes builder.scope declared others <;> rfl
  | @text content others legible apart behind later =>
    intro encoding builder declared depth last outer rest inside closing settled
    have start := settled content rfl
    obtain ⟨tail, markup⟩ := exists_cons_of_apart behind apart declared depth
      (Node.text content).asNeighbour outer rest
    rw [writeNodes, writeNode_text, List.append_assoc, markup, run_escapeText inside legible,
      ← markup, rereadNodes_text]
    have folded := Builder.foldl_addCharacter builder content.toList
    have opened : (content.toList.foldl Builder.addCharacter builder).opened = builder.opened := by
      rw [folded]
    have scope : (content.toList.foldl Builder.addCharacter builder).scope = builder.scope := by
      rw [Builder.scope, opened, Builder.scope]
    rw [later encoding _ declared depth _ outer rest (opened ▸ inside) closing
      (fun content first => by cases apart _ first), start.flush_foldl, scope]
    cases rereadNodes builder.scope declared others with
    | error cause => rfl
    | ok nodes => simp [Except.bind, Except.map, start.flush_eq]

end Reader

/-! ## Documents -/

/-- The document of a legible element is read as that element is. -/
theorem readDocument_write_of_legible {element : Element} (legible : element.tag.Legible)
    (nodes : LegibleNodes element.children) :
    readDocument (Text.Utf8.encode (element.write true false)) = element.reread := by
  have start : Reader.declared = Reader.amid (some "UTF-8") .prolog {} .content := rfl
  have chars : (element.write false false).toList =
      writeNode false [] 0 .nothing (.element element.tag element.children) ++ [] := by
    rw [Element.write, String.toList_ofList, List.append_nil]
    rfl
  rw [readDocument_write, start, chars,
    Reader.run_writeElement legible (Reader.readsNodes nodes), Element.reread, List.append_nil]
  have scope : ({} : Builder).flush.scope = [] := rfl
  rw [scope]
  cases element.tag.reread [] [] with
  | error cause => rfl
  | ok known =>
    dsimp only [Except.bind, bind]
    cases rereadNodes known.1 (element.tag.newBindings []) element.children with
    | error cause => rfl
    | ok nodes =>
      dsimp only
      rw [Reader.run_of_isEmpty rfl]
      rfl

end SoapDispatch.Xml
