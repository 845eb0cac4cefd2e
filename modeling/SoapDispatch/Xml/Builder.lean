import SoapDispatch.Xml.Element
import SoapDispatch.Xml.Tags

/-!
# Building the tree

The tree of a document under construction: the open elements, and the run of text that no markup has
ended yet. A run is a node only if something in it is visible; a visible CDATA section makes the run
directly behind it visible, and so does a reference to an entity at the start of a run. Names are
resolved as soon as a start tag is complete, and attributes are known by their local names.

Several root elements are accepted, the first one being the result; whatever comes after it has to
be well formed all the same.
-/

namespace SoapDispatch.Xml

/-! ## Names in scope -/

/-- The namespace declarations of a start tag. Of two that bind the same qualifier the first
counts. -/
def declaredBindings : List (QName × String) → Except ReadError Bindings
  | [] => .ok []
  | (name, value) :: rest => do
    let later ← declaredBindings rest
    match name.qualifier with
    | some "xmlns" =>
      if name.base = "xmlns" then .error (.reservedName name.written)
      else if name.base = "xml" then
        if value = xmlUri then .ok later else .error (.reservedName name.written)
      else if value = "" then .error (.unboundQualifier name.base)
      else .ok (Dictionary.insert name.base value later)
    | none =>
      if name.base = "xmlns" then
        if value = "xml" || value = "xmlns" || value = xmlUri || value = xmlnsUri then
          .error (.reservedName value)
        else .ok (Dictionary.insert "" value later)
      else .ok later
    | some _ => .ok later

/-- Whether an attribute is a namespace declaration. -/
def declaresBinding (name : QName) : Bool :=
  name.qualifier == some "xmlns" || (name.qualifier == none && name.base == "xmlns")

/-- Refuses attributes with equal names or with qualifiers that are not bound. -/
def checkAttributes (scope : Bindings) : List (QName × String) → Except ReadError Unit
  | [] => .ok ()
  | (name, _) :: rest =>
    if rest.any (·.1 == name) then .error (.duplicateAttribute name.written)
    else
      match name.qualifier with
      | some qualifier =>
        if (scope.resolve? qualifier).isSome then checkAttributes scope rest
        else .error (.unboundQualifier qualifier)
      | none => checkAttributes scope rest

/-- The namespace an element's name resolves to. -/
def elementUri (scope : Bindings) (name : QName) : Except ReadError (Option String) :=
  match name.qualifier with
  | some qualifier =>
    match scope.resolve? qualifier with
    | some uri => .ok (some uri)
    | none => .error (.unboundQualifier qualifier)
  | none => .ok ((Dictionary.get? "" scope).filter (· != ""))

/-- The bindings in scope inside a start tag, and the tag itself. -/
def resolveTag (outer : Bindings) (name : QName) (pairs : List (QName × String)) :
    Except ReadError (Bindings × Tag) := do
  let declared ← declaredBindings pairs
  let scope : Bindings :=
    declared.foldl (fun scope binding => Dictionary.insert binding.1 binding.2 scope) outer
  let regular := pairs.filter fun pair => !declaresBinding pair.1
  checkAttributes scope regular
  let uri ← elementUri scope name
  .ok (scope, {
    name := name.base
    qualifier := name.qualifier
    uri
    bindings := scope.telling
    attributes := Attributes.ofPairs (regular.map fun pair => (pair.1.base, pair.2)) })

/-! ## Building -/

/-- An element whose end tag has not been read yet; its children stand in reverse. -/
structure OpenElement where
  name : QName
  tag : Tag
  scope : Bindings
  children : List Node := []

/-- The tree of what has been read of a document. -/
structure Builder where
  /-- The open elements, innermost first. -/
  opened : List OpenElement := []
  /-- The characters since the last markup, in reverse. -/
  run : List Char := []
  /-- Whether the current run is kept. -/
  visible : Bool := false
  /-- The complete root elements, in reverse. -/
  roots : List Element := []

namespace Builder

/-- Adds a node to the innermost open element; outside of the root only elements are kept. -/
def place (builder : Builder) (node : Node) : Builder :=
  match builder.opened with
  | inner :: outer =>
    { builder with opened := { inner with children := node :: inner.children } :: outer }
  | [] =>
    match node.asElement? with
    | some root => { builder with roots := root :: builder.roots }
    | none => builder

/-- Ends the current run of text. -/
def flush (builder : Builder) : Builder :=
  let ended := { builder with run := [], visible := false }
  if builder.visible && !builder.run.isEmpty then
    ended.place (.text (String.ofList builder.run.reverse))
  else ended

/-- Adds a character to the current run. -/
def addCharacter (builder : Builder) (c : Char) : Builder :=
  { builder with run := c :: builder.run, visible := builder.visible || !isSpace c }

/-- Adds the spelling of a delimiter that delimits nothing. -/
def addSpelling (builder : Builder) (token : Token) : Builder :=
  { builder with run := token.spelling.reverse ++ builder.run, visible := true }

/-- Notes a reference to an entity, whose text is yet to be read. -/
def meetEntity (builder : Builder) : Builder :=
  { builder with visible := builder.visible || builder.run.isEmpty }

/-- Opens an element, or adds it at once if its tag closes itself. -/
def openElement (builder : Builder) (start : StartTag) : Except ReadError Builder := do
  let outer := (builder.opened.head?.map OpenElement.scope).getD []
  let (scope, tag) ← resolveTag outer start.name start.attributes
  if start.empty then .ok (builder.place (.element tag []))
  else .ok { builder with opened := { name := start.name, tag, scope } :: builder.opened }

/-- Closes the innermost open element. -/
def closeElement (builder : Builder) (name : QName) : Except ReadError Builder :=
  match builder.opened with
  | [] => .error .outsideRoot
  | inner :: outer =>
    if inner.name = name then
      .ok ({ builder with opened := outer }.place (.element inner.tag inner.children.reverse))
    else .error (.mismatchedEndTag name.written)

/-- Adds a CDATA section. -/
def addCdata (builder : Builder) (content : List Char) : Builder :=
  { builder.place (.cdata (String.ofList content)) with visible := !content.all isSpace }

/-- The first root element, once everything is closed. -/
def finish (builder : Builder) : Except ReadError Element :=
  match builder.opened, builder.roots.getLast? with
  | [], some root => .ok root
  | [], none => .error .missingRoot
  | _ :: _, _ => .error .unexpectedEnd

end Builder

end SoapDispatch.Xml
