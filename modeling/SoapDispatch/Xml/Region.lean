import SoapDispatch.Xml.ReadError
import SoapDispatch.Xml.Token

/-!
# Regions of a document

Which delimiters there are depends on where in a document one stands. `Context.read` takes one token
off the front of a text; the token takes exactly the characters it is spelled with
(`spelling_of_read`), so cutting a document into tokens loses nothing and comes to an end.
-/

namespace SoapDispatch.Xml

/-- The stretches of a document with delimiters of their own. -/
inductive Region where
  /-- Text and tags or, in a document type declaration, what stands between the markup
  declarations. -/
  | ordinary
  | comment
  | cdata
  | instruction
  /-- A markup declaration outside of its literals. -/
  | declaration
  | literal (mark : Quote)
deriving DecidableEq, Repr

/-- Where in a document a token is read. -/
structure Context where
  region : Region := .ordinary
  /-- Whether a document type declaration is open. -/
  doctype : Bool := false
deriving DecidableEq, Repr

/-- One token, the context after it and the characters behind it. -/
abbrev Taken := Token × Context × List Char

namespace Context

/-- The context in another region. -/
def entering (context : Context) (region : Region) : Context :=
  { context with region }

/-- The context outside of every special region. -/
def ordinary (context : Context) : Context :=
  context.entering .ordinary

/-- Whether a document may end here. -/
def mayEnd (context : Context) : Bool :=
  context.region == .ordinary && !context.doctype

/-- Whether a markup declaration may start with a letter after `<!`. -/
def declares (context : Context) (letter : Char) : Bool :=
  context.doctype && (letter == 'E' || letter == 'A' || letter == 'N')

/-- The token that starts with `<`, given what stands behind it. -/
def readMarkup (context : Context) : List Char → Except ReadError Taken
  | '?' :: rest => .ok (.instructionStart, context.entering .instruction, rest)
  | '/' :: rest => .ok (.endTagStart, context.ordinary, rest)
  | '!' :: '-' :: '-' :: rest => .ok (.commentStart, context.entering .comment, rest)
  | '!' :: '[' :: 'C' :: 'D' :: 'A' :: 'T' :: 'A' :: '[' :: rest =>
    .ok (.cdataStart, context.entering .cdata, rest)
  | '!' :: 'D' :: 'O' :: 'C' :: 'T' :: 'Y' :: 'P' :: 'E' :: rest =>
    .ok (.doctypeStart, { doctype := true }, rest)
  | '!' :: c :: rest =>
    if context.declares c then .ok (.declarationStart, context.entering .declaration, c :: rest)
    else .error .malformedMarkup
  | c :: rest =>
    if isSpace c || isNameChar c then .ok (.tagStart, context.ordinary, c :: rest)
    else .error .malformedMarkup
  | [] => .error .unexpectedEnd

/-- A token of text and tags. -/
def readContent (context : Context) : List Char → Except ReadError Taken
  | '<' :: rest => context.readMarkup rest
  | '/' :: '>' :: rest => .ok (.emptyTagEnd, context, rest)
  | ']' :: ']' :: '>' :: rest => .ok (.cdataEnd, context, rest)
  | c :: rest => .ok (.ofChar c, context, rest)
  | [] => .error .unexpectedEnd

/-- A token between markup declarations. The end of a tag ends the document type declaration. -/
def readSubset (context : Context) : List Char → Except ReadError Taken
  | '<' :: rest => context.readMarkup rest
  | '>' :: rest => .ok (.tagEnd, {}, rest)
  | '=' :: rest => .ok (.character '=', context, rest)
  | c :: rest => .ok (.ofChar c, context, rest)
  | [] => .error .unexpectedEnd

/-- A token of a comment. Two hyphens only stand at its end. -/
def readComment (context : Context) : List Char → Except ReadError Taken
  | '-' :: '-' :: '>' :: rest => .ok (.commentEnd, context.ordinary, rest)
  | '-' :: '-' :: _ => .error .malformedComment
  | c :: rest => .ok (.character c, context, rest)
  | [] => .error .unexpectedEnd

/-- A token of a CDATA section. -/
def readCdata (context : Context) : List Char → Except ReadError Taken
  | ']' :: ']' :: '>' :: rest => .ok (.cdataEnd, context.ordinary, rest)
  | c :: rest => .ok (.character c, context, rest)
  | [] => .error .unexpectedEnd

/-- A token of a processing instruction. -/
def readInstruction (context : Context) : List Char → Except ReadError Taken
  | '?' :: '>' :: rest => .ok (.instructionEnd, context.ordinary, rest)
  | '<' :: rest => .ok (.tagStart, context, rest)
  | c :: rest => .ok (.ofChar c, context, rest)
  | [] => .error .unexpectedEnd

/-- A token of a markup declaration. A literal hides what it holds. -/
def readDeclaration (context : Context) : List Char → Except ReadError Taken
  | '<' :: _ => .error .malformedMarkup
  | '>' :: rest => .ok (.tagEnd, context.ordinary, rest)
  | '=' :: rest => .ok (.character '=', context, rest)
  | '"' :: rest => .ok (.quote .double, context.entering (.literal .double), rest)
  | '\'' :: rest => .ok (.quote .single, context.entering (.literal .single), rest)
  | c :: rest => .ok (.ofChar c, context, rest)
  | [] => .error .unexpectedEnd

/-- A token of a literal in a markup declaration. -/
def readLiteral (context : Context) (mark : Quote) : List Char → Except ReadError Taken
  | c :: rest =>
    if c = mark.character then .ok (.quote mark, context.entering .declaration, rest)
    else .ok (.character c, context, rest)
  | [] => .error .unexpectedEnd

/-- The token at the front of a text. -/
def read (context : Context) (chars : List Char) : Except ReadError Taken :=
  match context.region with
  | .ordinary => if context.doctype then context.readSubset chars else context.readContent chars
  | .comment => context.readComment chars
  | .cdata => context.readCdata chars
  | .instruction => context.readInstruction chars
  | .declaration => context.readDeclaration chars
  | .literal mark => context.readLiteral mark chars

theorem spelling_of_readMarkup {context next : Context} {chars rest : List Char} {token : Token}
    (taken : context.readMarkup chars = .ok (token, next, rest)) :
    '<' :: chars = token.spelling ++ rest := by
  unfold readMarkup at taken
  split at taken
  · cases taken; rfl
  · cases taken; rfl
  · cases taken; rfl
  · cases taken; rfl
  · cases taken; rfl
  · split at taken <;> cases taken; rfl
  · split at taken <;> cases taken; rfl
  · cases taken

theorem spelling_of_readContent {context next : Context} {chars rest : List Char} {token : Token}
    (taken : context.readContent chars = .ok (token, next, rest)) :
    chars = token.spelling ++ rest := by
  unfold readContent at taken
  split at taken
  · exact spelling_of_readMarkup taken
  · cases taken; rfl
  · cases taken; rfl
  · cases taken; simp
  · cases taken

theorem spelling_of_readSubset {context next : Context} {chars rest : List Char} {token : Token}
    (taken : context.readSubset chars = .ok (token, next, rest)) :
    chars = token.spelling ++ rest := by
  unfold readSubset at taken
  split at taken
  · exact spelling_of_readMarkup taken
  · cases taken; rfl
  · cases taken; rfl
  · cases taken; simp
  · cases taken

theorem spelling_of_readComment {context next : Context} {chars rest : List Char} {token : Token}
    (taken : context.readComment chars = .ok (token, next, rest)) :
    chars = token.spelling ++ rest := by
  unfold readComment at taken
  split at taken
  · cases taken; rfl
  · cases taken
  · cases taken; rfl
  · cases taken

theorem spelling_of_readCdata {context next : Context} {chars rest : List Char} {token : Token}
    (taken : context.readCdata chars = .ok (token, next, rest)) :
    chars = token.spelling ++ rest := by
  unfold readCdata at taken
  split at taken
  · cases taken; rfl
  · cases taken; rfl
  · cases taken

theorem spelling_of_readInstruction {context next : Context} {chars rest : List Char}
    {token : Token} (taken : context.readInstruction chars = .ok (token, next, rest)) :
    chars = token.spelling ++ rest := by
  unfold readInstruction at taken
  split at taken
  · cases taken; rfl
  · cases taken; rfl
  · cases taken; simp
  · cases taken

theorem spelling_of_readDeclaration {context next : Context} {chars rest : List Char}
    {token : Token} (taken : context.readDeclaration chars = .ok (token, next, rest)) :
    chars = token.spelling ++ rest := by
  unfold readDeclaration at taken
  split at taken
  · cases taken
  · cases taken; rfl
  · cases taken; rfl
  · cases taken; rfl
  · cases taken; rfl
  · cases taken; simp
  · cases taken

theorem spelling_of_readLiteral {context next : Context} {mark : Quote} {chars rest : List Char}
    {token : Token} (taken : context.readLiteral mark chars = .ok (token, next, rest)) :
    chars = token.spelling ++ rest := by
  unfold readLiteral at taken
  split at taken
  · split at taken
    · rename_i closing
      cases taken
      rw [closing]
      rfl
    · cases taken; rfl
  · cases taken

/-- A token takes exactly the characters it is spelled with. -/
theorem spelling_of_read {context next : Context} {chars rest : List Char} {token : Token}
    (taken : context.read chars = .ok (token, next, rest)) : chars = token.spelling ++ rest := by
  unfold read at taken
  split at taken
  · split at taken
    · exact spelling_of_readSubset taken
    · exact spelling_of_readContent taken
  · exact spelling_of_readComment taken
  · exact spelling_of_readCdata taken
  · exact spelling_of_readInstruction taken
  · exact spelling_of_readDeclaration taken
  · exact spelling_of_readLiteral taken

end Context

end SoapDispatch.Xml
