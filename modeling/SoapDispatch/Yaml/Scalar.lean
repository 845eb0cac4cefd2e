import SoapDispatch.Text.Digits
import SoapDispatch.Yaml.Cursor

/-!
# Scalars as they are written

The text of plain, quoted and block scalars. White space within plain and quoted scalars is folded:
a single line break stands for a space, further ones for themselves. Every reader gives the text and
what is left behind it.
-/

namespace SoapDispatch.Yaml

open SoapDispatch.Text

/-! ## Folding -/

/-- White space between two words of a scalar. -/
structure Gap where
  /-- Spaces and tabs before the first line break, in reverse. -/
  spacing : List Char := []
  /-- Whether there is a line break, be it an escaped one. -/
  broken : Bool := false
  /-- The first line break, unless it is escaped. -/
  first : Option Char := none
  /-- The later line breaks, in reverse. -/
  later : List Char := []

namespace Gap

/-- The gap with one more character. -/
def add (gap : Gap) (c : Char) : Gap :=
  if isBreak c then
    if gap.broken then { gap with later := c :: gap.later }
    else { spacing := [], broken := true, first := some c }
  else if gap.broken then gap
  else { gap with spacing := c :: gap.spacing }

/-- What the gap stands for. -/
def folded (gap : Gap) : List Char :=
  if gap.broken then
    match gap.first with
    | some '\n' => if gap.later.isEmpty then [' '] else gap.later.reverse
    | some c => c :: gap.later.reverse
    | none => gap.later.reverse
  else gap.spacing.reverse

end Gap

/-- A scalar as far as it has been read: its text in reverse, and the gap after it. -/
structure Draft where
  text : List Char := []
  gap : Option Gap := none
  /-- The column of the next character. -/
  column : Nat

namespace Draft

/-- Puts the gap, if there is one, into the text. -/
def close (draft : Draft) : Draft :=
  { draft with text := (draft.gap.elim [] Gap.folded).reverse ++ draft.text, gap := none }

/-- The draft with one more visible character. -/
def push (draft : Draft) (c : Char) : Draft :=
  let closed := draft.close
  { closed with text := c :: closed.text, column := closed.column + 1 }

/-- The draft with one more character of white space. -/
def space (draft : Draft) (c : Char) : Draft :=
  { draft with
    gap := some ((draft.gap.getD {}).add c)
    column := if isBreak c then 0 else draft.column + 1 }

/-- Whether the draft ends in a gap with a line break. -/
def broken (draft : Draft) : Bool :=
  draft.gap.any Gap.broken

/-- The text read so far. -/
def result (draft : Draft) : String :=
  String.ofList draft.text.reverse

end Draft

/-! ## Plain scalars -/

/-- The indicators that end a word in a flow collection. -/
def isFlowIndicator (c : Char) : Bool :=
  c == ',' || c == '[' || c == ']' || c == '{' || c == '}'

/-- Whether a plain scalar ends before the given text. -/
def endsPlain (flow : Bool) : List Char → Bool
  | ':' :: rest => atGap rest
  | c :: _ => flow && isFlowIndicator c
  | [] => true

/-- Whether a colon stands where a flow collection has no use for it. -/
def strayColon (flow : Bool) : List Char → Bool
  | ':' :: c :: _ => flow && (isFlowIndicator c || c == '?')
  | _ => false

/-- Reads a plain scalar whose further lines are indented to at least the column `indent`. -/
def readPlain (flow : Bool) (indent : Nat) (draft : Draft) :
    List Char → Except Refusal (Draft × List Char)
  | [] => .ok (draft, [])
  | c :: rest =>
    if isSpacing c || isBreak c then
      if draft.broken && c == '\t' && draft.column < indent then .error .tabIndentation
      else readPlain flow indent (draft.space c) rest
    else if draft.gap.isSome &&
        ((!flow && draft.column < indent) || c == '#' ||
          { chars := c :: rest, column := draft.column : Cursor }.atMarker) then
      .ok (draft, c :: rest)
    else if strayColon flow (c :: rest) then .error .misplacedIndicator
    else if endsPlain flow (c :: rest) then .ok (draft, c :: rest)
    else readPlain flow indent (draft.push c) rest

/-! ## Quoted scalars -/

/-- Whether a marker of documents stands at a draft's next character. -/
def Draft.atMarker (draft : Draft) (chars : List Char) : Bool :=
  { chars, column := draft.column : Cursor }.atMarker

/-- Reads a scalar in single quotes, the first one being read already. -/
def readSingle (draft : Draft) : List Char → Except Refusal (Draft × List Char)
  | [] => .error .malformedScalar
  | '\'' :: '\'' :: rest =>
    readSingle { draft.push '\'' with column := draft.column + 2 } rest
  | c :: rest =>
    if c = '\'' then .ok (draft.close, rest)
    else if isSpacing c || isBreak c then readSingle (draft.space c) rest
    else if draft.atMarker (c :: rest) then .error .misplacedIndicator
    else readSingle (draft.push c) rest

/-- The character that a single letter after a backslash stands for. -/
def escape? : Char → Option Char
  | '0' => some '\x00'
  | 'a' => some '\x07'
  | 'b' => some '\x08'
  | 't' => some '\t'
  | '\t' => some '\t'
  | 'n' => some '\n'
  | 'v' => some '\x0b'
  | 'f' => some '\x0c'
  | 'r' => some '\r'
  | 'e' => some '\x1b'
  | ' ' => some ' '
  | '"' => some '"'
  | '/' => some '/'
  | '\\' => some '\\'
  | 'N' => some '\u0085'
  | '_' => some '\u00a0'
  | 'L' => some '\u2028'
  | 'P' => some '\u2029'
  | _ => none

/-- The character that hexadecimal digits after a backslash stand for. -/
def escapeNumber? (digits : List Char) : Option Char :=
  (numberOf? 16 hexDigit? digits).bind fun code =>
    if code.isValidChar then some (Char.ofNat code) else none

/-- The draft with an escaped character, written in the given number of characters. -/
def Draft.pushEscape (draft : Draft) (c : Char) (width : Nat) : Draft :=
  { draft.push c with column := draft.column + width }

/-- Reads a scalar in double quotes, the first one being read already. -/
def readDouble (draft : Draft) : List Char → Except Refusal (Draft × List Char)
  | [] => .error .malformedScalar
  | '\\' :: '\n' :: rest =>
    readDouble { draft.close with gap := some { broken := true }, column := 0 } rest
  | '\\' :: '\u2028' :: rest =>
    readDouble { draft.close with gap := some { broken := true }, column := 0 } rest
  | '\\' :: '\u2029' :: rest =>
    readDouble { draft.close with gap := some { broken := true }, column := 0 } rest
  | '\\' :: 'x' :: a :: b :: rest =>
    match escapeNumber? [a, b] with
    | some c => readDouble (draft.pushEscape c 4) rest
    | none => .error .malformedScalar
  | '\\' :: 'u' :: a :: b :: c :: d :: rest =>
    match escapeNumber? [a, b, c, d] with
    | some c => readDouble (draft.pushEscape c 6) rest
    | none => .error .malformedScalar
  | '\\' :: 'U' :: a :: b :: c :: d :: e :: f :: g :: h :: rest =>
    match escapeNumber? [a, b, c, d, e, f, g, h] with
    | some c => readDouble (draft.pushEscape c 10) rest
    | none => .error .malformedScalar
  | '\\' :: c :: rest =>
    match escape? c with
    | some c => readDouble (draft.pushEscape c 2) rest
    | none => .error .malformedScalar
  | c :: rest =>
    if c = '"' then .ok (draft.close, rest)
    else if isSpacing c || isBreak c then readDouble (draft.space c) rest
    else if draft.atMarker (c :: rest) then .error .misplacedIndicator
    else readDouble (draft.push c) rest

/-! ## Block scalars -/

/-- What becomes of the line breaks at the end of a block scalar. -/
inductive Chomping where
  | strip
  | clip
  | keep
deriving DecidableEq, Repr

/-- The header of a block scalar. -/
structure BlockHeader where
  literal : Bool
  chomping : Chomping := .clip
  /-- By how much the lines are indented, if the header says so. -/
  increment : Option Nat := none

/-- Where the reader of a block scalar stands in a line. -/
inductive BlockPhase where
  /-- Before the first line with visible characters; the greatest indentation so far. -/
  | detecting (greatest : Nat)
  /-- In the indentation of a line. -/
  | indenting (indent : Nat)
  /-- In the text of a line. -/
  | within (indent : Nat)

/-- A block scalar as far as it has been read. -/
structure BlockDraft where
  phase : BlockPhase
  /-- The text, in reverse. -/
  text : List Char := []
  /-- The break at the end of the last line of text, if that line has ended. -/
  pending : Option Char := none
  /-- The breaks of the empty lines since then, in reverse. -/
  empty : List Char := []
  /-- Whether the last line of text starts with white space. -/
  spaced : Bool := false
  column : Nat := 0

namespace BlockDraft

/-- Starts a line of text with the given character; in folded scalars, the break between two lines
that do not start with white space is folded. -/
def startLine (draft : BlockDraft) (literal : Bool) (indent : Nat) (c : Char) : BlockDraft :=
  let spaced := isSpacing c
  let joint :=
    if !literal && draft.pending == some '\n' && !draft.spaced && !spaced then
      if draft.empty.isEmpty then [' '] else []
    else draft.pending.toList
  { phase := .within indent
    text := c :: (draft.empty ++ joint.reverse ++ draft.text)
    spaced
    column := draft.column + 1 }

/-- The text of a finished scalar. -/
def finish (draft : BlockDraft) (chomping : Chomping) : String :=
  let ending :=
    match chomping with
    | .strip => []
    | .clip => draft.pending.toList
    | .keep => draft.pending.toList ++ draft.empty.reverse
  String.ofList (draft.text.reverse ++ ending)

end BlockDraft

/-- Reads the lines of a block scalar inside a block that is indented by `outer` columns, or by none
at the top. -/
def readBlock (header : BlockHeader) (outer : Int) (draft : BlockDraft) :
    List Char → Except Refusal (BlockDraft × List Char)
  | [] => .ok (draft, [])
  | c :: rest =>
    match draft.phase with
    | .within indent =>
      if isBreak c then
        readBlock header outer
          { draft with phase := .indenting indent, pending := some c, empty := [], column := 0 }
          rest
      else
        readBlock header outer
          { draft with text := c :: draft.text, column := draft.column + 1 } rest
    | .indenting indent =>
      if draft.column < indent && c == ' ' then
        readBlock header outer { draft with column := draft.column + 1 } rest
      else if draft.column < indent && c == '\t' then .error .tabIndentation
      else if isBreak c then
        readBlock header outer { draft with empty := c :: draft.empty, column := 0 } rest
      else if draft.column == indent then
        readBlock header outer (draft.startLine header.literal indent c) rest
      else .ok (draft, c :: rest)
    | .detecting greatest =>
      let greatest := max greatest draft.column
      if c == ' ' then
        readBlock header outer
          { draft with phase := .detecting greatest, column := draft.column + 1 } rest
      else if c == '\t' then .error .tabIndentation
      else if isBreak c then
        readBlock header outer
          { draft with phase := .detecting greatest, empty := c :: draft.empty, column := 0 } rest
      else
        let indent := max (max greatest (outer + 1).toNat) 1
        if draft.column == indent then
          readBlock header outer (draft.startLine header.literal indent c) rest
        else .ok ({ draft with phase := .indenting indent }, c :: rest)

/-- Reads the indicators after `|` or `>`. -/
def readBlockHeader (literal : Bool) : List Char → Except Refusal (BlockHeader × List Char)
  | mark :: digit :: rest =>
    let chomping? := fun c => if c = '+' then some Chomping.keep
      else if c = '-' then some Chomping.strip else none
    match chomping? mark, decimalDigit? digit with
    | some _, some 0 => .error .malformedScalar
    | some chomping, some increment =>
      .ok ({ literal, chomping, increment := some increment }, rest)
    | some chomping, none => .ok ({ literal, chomping }, digit :: rest)
    | none, _ =>
      match decimalDigit? mark, chomping? digit with
      | some 0, _ => .error .malformedScalar
      | some increment, some chomping =>
        .ok ({ literal, chomping, increment := some increment }, rest)
      | some increment, none => .ok ({ literal, increment := some increment }, digit :: rest)
      | none, _ => .ok ({ literal }, mark :: digit :: rest)
  | [mark] =>
    if mark = '+' then .ok ({ literal, chomping := .keep }, [])
    else if mark = '-' then .ok ({ literal, chomping := .strip }, [])
    else
      match decimalDigit? mark with
      | some 0 => .error .malformedScalar
      | some increment => .ok ({ literal, increment := some increment }, [])
      | none => .ok ({ literal }, [mark])
  | [] => .ok ({ literal }, [])

/-- The rest of a line that holds nothing but white space and possibly a comment; what follows it
starts with its break. -/
def blankLine? (chars : List Char) : Option (List Char) :=
  match chars.dropWhile isSpacing with
  | [] => some []
  | c :: rest =>
    if c = '#' then some (rest.dropWhile fun c => !isBreak c)
    else if isBreak c then some (c :: rest)
    else none

/-- Reads a block scalar after `|` or `>`: its text, and what follows it. -/
def readBlockScalar (literal : Bool) (outer : Int) (chars : List Char) :
    Except Refusal (String × List Char) := do
  let (header, after) ← readBlockHeader literal chars
  match blankLine? after with
  | none => .error .malformedScalar
  | some line =>
    let phase :=
      match header.increment with
      | some increment => .indenting ((max outer 0).toNat + increment)
      | none => .detecting 0
    let (draft, rest) ← readBlock header outer { phase } (line.drop 1)
    .ok (draft.finish header.chomping, rest)

end SoapDispatch.Yaml
