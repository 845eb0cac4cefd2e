import SoapDispatch.Xml.Document
import SoapDispatch.Xml.Writer

/-!
# Reading written documents

The declaration in front of a written document tells nothing that the reader would not assume, so
reading the document comes to reading the characters of its root. Past the start of a document it
makes no difference which encoding has been declared, if any (`Reader.run_declaring`), so the same
document is read without the declaration (`parse_write`).

A reader may be given a number of steps that is enough; its run is then computed by structural
recursion.
-/

namespace SoapDispatch.Xml

namespace Reader

/-- Reads everything there is within a number of steps; gives nothing if that fails. -/
def runWithin : Nat → Reader → Feed → Option Reader
  | 0, _, _ => none
  | steps + 1, reader, feed =>
    if feed.chars.isEmpty then some reader
    else
      match reader.context.read feed.chars with
      | .error _ => none
      | .ok (token, context, rest) =>
        match { reader with context }.step token with
        | .error _ => none
        | .ok (next, text) =>
          match (feed.advance token.spelling.length rest).enter text with
          | .error _ => none
          | .ok feed => runWithin steps next feed

/-- A run that ends within some number of steps is the run. -/
theorem run_of_runWithin {steps : Nat} {reader last : Reader} {feed : Feed}
    (ran : runWithin steps reader feed = some last) : reader.run feed = .ok last := by
  induction steps generalizing reader feed with
  | zero => exact nomatch ran
  | succ steps inductionHypothesis =>
    rw [runWithin] at ran
    split at ran
    · next ended =>
      rw [run_of_isEmpty ended, Option.some.inj ran]
    · next more =>
      split at ran
      · exact nomatch ran
      · next taken =>
        split at ran
        · exact nomatch ran
        · next stepped =>
          split at ran
          · exact nomatch ran
          · next entered =>
            rw [run_of_step (by simpa using more) taken stepped entered]
            exact inductionHypothesis ran

section Declaring

variable {reader next last : Reader} {feed : Feed} {token : Token} {text : List Char}

/-- The reader, had the document declared another encoding or none. -/
def declaring (encoding : Option String) (reader : Reader) : Reader :=
  { reader with encoding }

variable (encoding : Option String)

@[simp] theorem context_declaring : (reader.declaring encoding).context = reader.context := rfl

@[simp] theorem construct_declaring :
    (reader.declaring encoding).construct = reader.construct := rfl

@[simp] theorem version_declaring : (reader.declaring encoding).version = reader.version := rfl

@[simp] theorem entities_declaring : (reader.declaring encoding).entities = reader.entities := rfl

@[simp] theorem builder_declaring : (reader.declaring encoding).builder = reader.builder := rfl

/-- What the document has declared of its encoding is not looked at in content. -/
theorem stepContent_declaring : (reader.declaring encoding).stepContent token =
    (reader.stepContent token).map (declaring encoding) := by
  unfold stepContent
  cases token
  all_goals
    dsimp only
    try simp only [apply_ite (Except.map (declaring encoding))]
    rfl

/-- It is not looked at in the target of an instruction either. -/
theorem stepTarget_declaring (name : List Char) :
    (reader.declaring encoding).stepTarget name token =
      (reader.stepTarget name token).map (declaring encoding) := by
  cases token <;> simp only [stepTarget, apply_ite (Except.map (declaring encoding))] <;> rfl

/-- Nor is it in a reference. -/
theorem stepReference_declaring (name : List Char) :
    (reader.declaring encoding).stepReference name token =
      (reader.stepReference name token).map (Prod.map (declaring encoding) id) := by
  unfold stepReference
  cases token with
  | character c =>
    dsimp only
    simp only [apply_ite (Except.map (Prod.map (declaring encoding) id))]
    rfl
  | referenceEnd =>
    simp only [bind, Except.bind, version_declaring, entities_declaring]
    cases Reference.ofChars reader.version name.reverse with
    | error cause => rfl
    | ok reference =>
      cases reference with
      | character c => rfl
      | entity name =>
        dsimp only
        cases reader.entities.find name <;> rfl
  | _ => rfl

/-- Only the document declaration has to do with it. -/
theorem step_declaring (past : ∀ declaration, reader.construct ≠ .declaration declaration) :
    (reader.declaring encoding).step token =
    (reader.step token).map (Prod.map (declaring encoding) id) := by
  simp only [step, construct_declaring, version_declaring, entities_declaring, builder_declaring,
    stepContent_declaring, stepTarget_declaring, stepReference_declaring, bind, Except.bind]
  cases stands : reader.construct with
  | content => cases reader.stepContent token <;> rfl
  | reference name => rfl
  | startTag tag =>
    dsimp only
    cases tag.step reader.version reader.entities token with
    | error cause => rfl
    | ok progress =>
      cases progress with
      | more tag => rfl
      | done tag =>
        dsimp only
        cases reader.builder.openElement tag <;> rfl
  | endTag tag =>
    dsimp only
    cases tag.step token with
    | error cause => rfl
    | ok progress =>
      cases progress with
      | more tag => rfl
      | done tag =>
        dsimp only
        cases reader.builder.closeElement tag <;> rfl
  | comment text =>
    by_cases ended : token = .commentEnd
    · simp only [ended, if_true]
      rfl
    · simp only [ended, if_false]
      cases extend reader.version text token <;> rfl
  | cdata text =>
    by_cases ended : token = .cdataEnd
    · simp only [ended, if_true]
      rfl
    · simp only [ended, if_false]
      cases extend reader.version text token <;> rfl
  | target name =>
    dsimp only
    cases reader.stepTarget name token <;> rfl
  | instruction target data =>
    by_cases ended : token = .instructionEnd
    · simp only [ended, if_true]
      rfl
    · simp only [ended, if_false]
      cases extend reader.version data token <;> rfl
  | declaration declaration => exact absurd stands (past declaration)
  | doctype doctype =>
    dsimp only
    cases doctype.step reader.version token with
    | error cause => rfl
    | ok progress => cases progress <;> rfl

/-- Whether the start of the document is past, where it can declare something of itself. -/
structure PastStart (reader : Reader) : Prop where
  stage : reader.stage ≠ .start
  construct : ∀ declaration, reader.construct ≠ .declaration declaration

/-- Past the start, content leads to no start. -/
theorem PastStart.stepContent (past : reader.PastStart)
    (stepped : reader.stepContent token = .ok next) : next.PastStart := by
  unfold Reader.stepContent at stepped
  cases token
  all_goals
    dsimp only at stepped
    repeat' split at stepped
    all_goals
      cases stepped <;>
        exact ⟨by simp [begin, resume, past.stage], by simp [begin, resume]⟩

/-- The target of an instruction leads to no start, as only the first one may be a declaration. -/
theorem PastStart.stepTarget (past : reader.PastStart) {name : List Char}
    (stepped : reader.stepTarget name token = .ok next) : next.PastStart := by
  unfold Reader.stepTarget at stepped
  repeat' split at stepped
  all_goals
    cases stepped <;>
      exact ⟨by simp_all [placeInstruction, resume, past.stage],
        by simp_all [placeInstruction, resume, past.stage]⟩

/-- A reference leads to no start. -/
theorem PastStart.stepReference (past : reader.PastStart) {name : List Char}
    (stepped : reader.stepReference name token = .ok (next, text)) : next.PastStart := by
  unfold Reader.stepReference at stepped
  cases token
  all_goals
    dsimp only [bind, Except.bind] at stepped
    repeat' split at stepped
    all_goals
      cases stepped <;>
        exact ⟨by simp [resume, past.stage], by simp [resume]⟩

/-- Whoever is past the start stays past it. -/
theorem PastStart.step (past : reader.PastStart)
    (stepped : reader.step token = .ok (next, text)) : next.PastStart := by
  simp only [Reader.step, bind, Except.bind] at stepped
  cases stands : reader.construct with
  | content =>
    simp only [stands] at stepped
    split at stepped <;> cases stepped
    next taken => exact past.stepContent taken
  | reference name =>
    simp only [stands] at stepped
    exact past.stepReference stepped
  | target name =>
    simp only [stands] at stepped
    split at stepped <;> cases stepped
    next taken => exact past.stepTarget taken
  | declaration declaration => exact absurd stands (past.construct declaration)
  | _ =>
    simp only [stands] at stepped
    repeat' split at stepped
    all_goals
      cases stepped <;>
        exact ⟨by simp [placeInstruction, resume, past.stage], by simp [placeInstruction, resume]⟩

/-- Past the start, the declared encoding makes no difference to a step in whatever context. -/
theorem PastStart.step_declaring (past : reader.PastStart) (context : Context) :
    ({ reader.declaring encoding with context } : Reader).step token =
      (({ reader with context } : Reader).step token).map (Prod.map (declaring encoding) id) :=
  @Reader.step_declaring { reader with context } token encoding past.construct

/-- Where something is left, one token is read and then the rest. -/
theorem run_of_more (more : feed.chars.isEmpty = false) : reader.run feed =
    (reader.context.read feed.chars).bind fun taken =>
      ({ reader with context := taken.2.1 }.step taken.1).bind fun stepped =>
        ((feed.advance taken.1.spelling.length taken.2.2).enter stepped.2).bind stepped.1.run := by
  rw [run]
  simp only [more, Bool.false_eq_true, if_false]
  split
  · next failed =>
    rw [failed]
    rfl
  · next taken =>
    rw [taken]
    dsimp only [Except.bind]
    split
    · next failed => rw [failed]
    · next stepped =>
      rw [stepped]
      dsimp only
      split
      · next failed => rw [failed]
      · next entered => rw [entered]

/-- Past the start, what the document has declared of its encoding makes no difference. -/
theorem run_declaring (past : reader.PastStart) :
    (reader.declaring encoding).run feed = (reader.run feed).map (declaring encoding) := by
  fun_induction run reader feed with
  | case1 reader feed ended => exact run_of_isEmpty ended
  | case2 reader feed more cause failed =>
    rw [run_of_more (by simpa using more), context_declaring, failed]
    rfl
  | case3 reader feed more token context rest taken cause failed =>
    have refused : ({ reader.declaring encoding with context } : Reader).step token =
        .error cause := by
      rw [past.step_declaring, failed]
      rfl
    rw [run_of_more (by simpa using more), context_declaring, taken]
    simp only [Except.bind, refused]
    rfl
  | case4 reader feed more token context rest taken next text stepped cause failed =>
    have same : ({ reader.declaring encoding with context } : Reader).step token =
        .ok (next.declaring encoding, text) := by
      rw [past.step_declaring, stepped]
      rfl
    rw [run_of_more (by simpa using more), context_declaring, taken]
    simp only [Except.bind, same, failed]
    rfl
  | case5 reader feed more token context rest taken next text stepped after entered
      inductionHypothesis =>
    have same : ({ reader.declaring encoding with context } : Reader).step token =
        .ok (next.declaring encoding, text) := by
      rw [past.step_declaring, stepped]
      rfl
    rw [@run_of_step (reader.declaring encoding) _ _ _ _ _ _ _ (by simpa using more) taken same
      entered]
    have behind : ({ reader with context } : Reader).PastStart := ⟨past.stage, past.construct⟩
    exact inductionHypothesis (behind.step stepped)

end Declaring

/-- The reader behind the declaration of a written document. -/
def declared : Reader where
  stage := .prolog
  encoding := some "UTF-8"

/-- The declaration of a written document is read. -/
theorem run_declarationText : ({} : Reader).run { chars := declarationText } = .ok declared := by
  refine @run_of_runWithin 40 _ _ _ ?_
  rfl

end Reader

/-! ## Written documents -/

/-- A document with a declaration is the declaration and the document without one. -/
theorem Element.write_declaration (element : Element) :
    element.write true false = String.ofList declarationText ++ element.write false false := by
  rw [write, write, writeChars, writeChars, if_pos rfl, if_neg Bool.false_ne_true,
    String.ofList_append]
  rfl

/-- The bytes of a text are those of its parts. -/
theorem encode_append (front back : String) :
    Text.Utf8.encode (front ++ back) = Text.Utf8.encode front ++ Text.Utf8.encode back := by
  simp [Text.Utf8.encode]

/-- A text written in UTF-8 is read character by character. -/
theorem Reader.runBytes_encode (reader : Reader) (text : String) :
    reader.runBytes .utf8 (Text.Utf8.encode text) = reader.run { chars := text.toList } := by
  simp only [runBytes, Encoding.decode?, Text.Utf8.decode?_encode, Option.map_some]

/-- A document of bytes that starts with a declaration is read in two parts. -/
theorem readDocument_of_split {bytes front back : List UInt8} {between : Reader}
    {encoding : Encoding} (unmarked : Encoding.marked? bytes = none)
    (declares : declarationBytes.isPrefixOf bytes = true)
    (split : splitDeclaration? bytes = some (front, back))
    (first : ({} : Reader).runBytes .utf8 front = .ok between)
    (admitted : Encoding.utf8.afterDeclaration false between.encoding = .ok encoding) :
    readDocument bytes = (between.runBytes encoding back).bind Reader.finish := by
  simp only [readDocument, unmarked, declares, split, first]
  simp only [bind, Except.bind, admitted]
  rfl

/-- Reading a written document comes to reading the characters of its root. -/
theorem readDocument_write (element : Element) :
    readDocument (Text.Utf8.encode (element.write true false)) =
      (Reader.declared.run { chars := (element.write false false).toList }).bind Reader.finish := by
  have first : ({} : Reader).runBytes .utf8 (Text.Utf8.encode (String.ofList declarationText)) =
      .ok Reader.declared := by
    rw [Reader.runBytes_encode, String.toList_ofList, Reader.run_declarationText]
  rw [Element.write_declaration, encode_append, ← Reader.runBytes_encode]
  exact readDocument_of_split rfl rfl rfl first rfl

/-- A text that declares nothing of itself is read character by character. -/
theorem parse_of_undeclared {text : String}
    (unmarked : Encoding.marked? (Text.Utf8.encode text) = none)
    (undeclared : declarationBytes.isPrefixOf (Text.Utf8.encode text) = false) :
    parse text = (({} : Reader).run { chars := text.toList }).bind fun last =>
      (Encoding.utf8.afterDeclaration false last.encoding).bind fun _ => last.finish := by
  simp only [parse, readDocument, unmarked, undeclared, Reader.runBytes_encode]
  rfl

/-- The reader behind the first character of the first tag. -/
def Reader.tagged (encoding : Option String) : Reader where
  construct := .startTag {}
  stage := .root
  encoding

/-- The first tag is met alike at the very start of a document and behind its declaration. -/
theorem Reader.run_tagged (stage : Stage) (encoding : Option String) (rest : List Char) :
    ({ stage, encoding } : Reader).run { chars := '<' :: 's' :: rest } =
      (tagged encoding).run { chars := 's' :: rest } :=
  @run_of_step _ _ _ _ .tagStart {} ('s' :: rest) [] rfl rfl rfl rfl

/-- A document is read alike with a declaration and without one, the name of its root being one that
starts as the one of an envelope does. -/
theorem parse_write {element : Element} {rest : List Char}
    (front : element.writeChars false false = '<' :: 's' :: rest) :
    parse (element.write false false) =
      readDocument (Text.Utf8.encode (element.write true false)) := by
  have text : element.write false false = "<s" ++ String.ofList rest := by
    rw [Element.write, front, ← String.toList_inj]
    simp
  have chars : (element.write false false).toList = '<' :: 's' :: rest := by
    rw [Element.write, String.toList_ofList, front]
  have bytes : Text.Utf8.encode (element.write false false) =
      0x3C :: 0x73 :: Text.Utf8.encode (String.ofList rest) := by
    rw [text, encode_append]
    rfl
  have undeclared : Reader.tagged none = (Reader.tagged (some "UTF-8")).declaring none := rfl
  have past : (Reader.tagged (some "UTF-8")).PastStart := by
    constructor <;> simp [Reader.tagged]
  rw [parse_of_undeclared (by rw [bytes]; rfl) (by rw [bytes]; rfl), readDocument_write, chars,
    Reader.run_tagged, Reader.declared, Reader.run_tagged, undeclared,
    Reader.run_declaring none past]
  cases (Reader.tagged (some "UTF-8")).run { chars := 's' :: rest } <;> rfl

/-- A written document is read if a reader gets to its end within some number of steps; what is read
can then be looked at. -/
theorem exists_readDocument_of_runWithin {element : Element} (steps : Nat) (check : Element → Bool)
    (checked : (Reader.declared.runWithin steps { chars := (element.write false false).toList }).any
      (fun last => last.finish.toOption.any check) = true) :
    ∃ root, readDocument (Text.Utf8.encode (element.write true false)) = .ok root ∧
      check root = true := by
  obtain ⟨last, ran, finished⟩ := (Option.any_eq_true _ _).1 checked
  rw [readDocument_write, Reader.run_of_runWithin ran]
  cases ended : last.finish with
  | error cause =>
    rw [ended] at finished
    exact nomatch finished
  | ok root =>
    rw [ended] at finished
    exact ⟨root, ended, finished⟩

end SoapDispatch.Xml
