import Mathlib.Data.List.TakeDrop
import SoapDispatch.Proofs.Reading

/-!
# Reading character by character

Outside of document types most characters are tokens of their own. A reader takes in a run of them
by a scan, a function on what the reader has noted of the run so far; names and references are such
runs. `Reads` is what the parts of a document are put together by: characters that are taken in
whatever stands behind them.
-/

namespace SoapDispatch.Xml

/-! ## Single tokens -/

namespace Reader

variable {reader between next : Reader} {chars rest : List Char}

/-- A token without a replacement text is taken in, or refused, before what stands behind it. -/
theorem run_token (token : Token) {context : Context} (result : Except ReadError Reader)
    (taken : reader.context.read chars = .ok (token, context, rest))
    (stepped : ({ reader with context } : Reader).step token = result.map (·, [])) :
    reader.run { chars } = result.bind fun next => next.run { chars := rest } := by
  have more : chars.isEmpty = false := by
    rw [Context.spelling_of_read taken, List.isEmpty_eq_false_iff]
    exact List.append_ne_nil_of_left_ne_nil token.spelling_ne_nil rest
  have behind : (({ chars } : Feed).advance token.spelling.length rest).enter [] =
      .ok { chars := rest } := by
    simp [Feed.advance, Feed.enter]
  rw [run_of_more more, taken]
  dsimp only [Except.bind]
  rw [stepped]
  cases result with
  | error cause => rfl
  | ok next =>
    dsimp only [Except.map]
    rw [behind]

/-- A reader takes in characters, whatever stands behind them. -/
def Reads (reader : Reader) (chars : List Char) (next : Reader) : Prop :=
  ∀ rest, reader.run { chars := chars ++ rest } = next.run { chars := rest }

/-- Nothing is taken in at once. -/
theorem Reads.refl (reader : Reader) : reader.Reads [] reader :=
  fun _ => rfl

/-- What is taken in one after the other is taken in together. -/
theorem Reads.trans {front back : List Char} (first : reader.Reads front between)
    (second : between.Reads back next) : reader.Reads (front ++ back) next := by
  intro rest
  rw [List.append_assoc, first, second]

/-- A token is taken in if it is told from its spelling alone. -/
theorem Reads.token (token : Token)
    (told : ∀ rest, reader.context.read (chars ++ rest) = .ok (token, reader.context, rest))
    (stepped : reader.step token = .ok (next, [])) : reader.Reads chars next := by
  intro rest
  exact run_token token (.ok next) (told rest) stepped

end Reader

/-! ## Plain characters -/

/-- The characters that delimit something in text or in tags, or are part of what does. -/
def markChars : List Char := ['<', '>', '/', ']', '=', '"', '\'', '&', ';']

/-- A plain character is a token of its own, whatever stands behind it. -/
theorem Context.read_plain {c : Char} (plain : c ∉ markChars) (rest : List Char) :
    ({} : Context).read (c :: rest) = .ok (.character c, {}, rest) := by
  have own : Token.ofChar c = .character c := by
    unfold Token.ofChar
    split
    case h_7 => rfl
    all_goals simp [markChars] at plain
  have ordinary : ({} : Context).read (c :: rest) = ({} : Context).readContent (c :: rest) := rfl
  rw [ordinary]
  unfold Context.readContent
  split
  case h_4 same =>
    cases same
    rw [own]
  case h_5 none => cases none
  all_goals
    rename_i same
    cases same
    simp [markChars] at plain

/-- A name character is plain, and no white space. -/
theorem plain_of_isNameChar {c : Char} (legal : isNameChar c = true) :
    c ∉ markChars ∧ isSpace c = false := by
  constructor
  · intro mark
    have none : markChars.all (fun c => !isNameChar c) = true := by decide
    have illegal := List.all_eq_true.1 none c mark
    rw [legal] at illegal
    cases illegal
  · rw [← Bool.not_eq_true]
    intro space
    simp only [isSpace, Bool.or_eq_true, beq_iff_eq] at space
    rcases space with ((rfl | rfl) | rfl) | rfl <;> exact absurd legal (by decide)

/-- A reader that takes characters into a state of its own takes in what a scan of them gives. -/
theorem Reader.Reads.scan {σ : Type} (place : σ → Reader) {advance : σ → Char → Except ReadError σ}
    (ordinary : ∀ state, (place state).context = {}) {chars : List Char} {state last : σ}
    (steps : ∀ c ∈ chars, ∀ state next, advance state c = .ok next →
      (place state).step (.character c) = .ok (place next, []))
    (plain : ∀ c ∈ chars, c ∉ markChars) (scanned : chars.foldlM advance state = .ok last) :
    (place state).Reads chars (place last) := by
  induction chars generalizing state with
  | nil =>
    cases scanned
    exact .refl _
  | cons c rest inductionHypothesis =>
    rw [List.foldlM_cons] at scanned
    cases advanced : advance state c with
    | error cause =>
      rw [advanced] at scanned
      cases scanned
    | ok next =>
      rw [advanced] at scanned
      have first : (place state).Reads [c] (place next) := by
        refine .token (.character c) (fun behind => ?_) (steps c (List.mem_cons_self ..) state next advanced)
        rw [ordinary]
        exact Context.read_plain (plain c (List.mem_cons_self ..)) behind
      exact first.trans (inductionHypothesis
        (fun other member => steps other (List.mem_cons_of_mem c member))
        (fun other member => plain other (List.mem_cons_of_mem c member)) scanned)

/-! ## Names -/

/-- A name is read from the characters that spell it. -/
structure QName.SpelledBy (name : QName) (chars : List Char) : Prop where
  legal : ∀ c ∈ chars, isNameChar c = true
  complete : QName.ofChars? chars = some name

namespace QName.SpelledBy

variable {name : QName} {chars : List Char}

/-- The first character of a name may start one, and there is one colon behind it at most. -/
theorem exists_cons (spelled : name.SpelledBy chars) :
    ∃ first rest, chars = first :: rest ∧ isNameStart first = true ∧ first ≠ ':' ∧
      rest.count ':' ≤ 1 := by
  have complete := spelled.complete
  unfold QName.ofChars? at complete
  split at complete
  · cases complete
  · next start =>
    cases chars with
    | nil => simp at start
    | cons first rest =>
      simp only [List.head?_cons, Option.all_some, Bool.or_eq_true, Bool.not_eq_true', beq_iff_eq,
        not_or, Bool.not_eq_false] at start
      refine ⟨first, rest, rfl, start.1, start.2, ?_⟩
      suffices once : (first :: rest).count ':' ≤ 1 from
        Nat.le_trans List.count_le_count_cons once
      -- The characters are cut at the first colon; no other one is admitted behind it.
      rw [List.span_eq_takeWhile_dropWhile] at complete
      have parts := @List.takeWhile_append_dropWhile _ (· != ':') (first :: rest)
      have front : ((first :: rest).takeWhile (· != ':')).count ':' = 0 := by
        refine List.count_eq_zero.2 fun member => ?_
        simpa using List.all_eq_true.1 List.all_takeWhile _ member
      rw [← parts, List.count_append, front, Nat.zero_add]
      cases back : (first :: rest).dropWhile (· != ':') with
      | nil => simp
      | cons colon base =>
        rw [back] at complete
        simp only [] at complete
        split at complete
        · cases complete
        · next single =>
          have none : base.count ':' = 0 := List.count_eq_zero.2 (by simp_all)
          rw [List.count_cons, none]
          split <;> omega

end QName.SpelledBy

namespace PartialName

/-- Name characters are added to a name, if no colon comes too many. -/
theorem foldlM_push {name : PartialName} {chars : List Char} (started : name.chars ≠ [])
    (legal : ∀ c ∈ chars, isNameChar c = true)
    (once : chars.count ':' + name.divided.toNat ≤ 1) : chars.foldlM push name =
      .ok { chars := chars.reverse ++ name.chars, divided := name.divided || chars.contains ':' } := by
  induction chars generalizing name with
  | nil => simp [pure, Except.pure]
  | cons c rest inductionHypothesis =>
    have others := fun other member => legal other (List.mem_cons_of_mem c member)
    have filled : name.chars.isEmpty = false := List.isEmpty_eq_false_iff.2 started
    rw [List.foldlM_cons]
    by_cases colon : c = ':'
    · subst colon
      rw [List.count_cons_self] at once
      have undivided : name.divided = false := by
        cases divided : name.divided with
        | false => rfl
        | true =>
          rw [divided] at once
          simp at once
      have pushed : name.push ':' = .ok { chars := ':' :: name.chars, divided := true } := by
        simp [push, filled, undivided]
      rw [pushed]
      simp only [bind, Except.bind]
      rw [inductionHypothesis (by simp) others (by simp; omega)]
      simp
    · have pushed : name.push c = .ok { name with chars := c :: name.chars } := by
        simp [push, colon, started, legal c (List.mem_cons_self ..)]
      rw [List.count_cons_of_ne colon] at once
      rw [pushed]
      simp only [bind, Except.bind]
      rw [@inductionHypothesis { name with chars := c :: name.chars } (by simp) others once]
      simp [Ne.symm colon]

/-- A name that is complete but for its end. -/
def ofSpelling (chars : List Char) : PartialName where
  chars := chars.reverse
  divided := chars.contains ':'

variable {name : QName} {chars : List Char}

/-- The name that is spelled is complete. -/
theorem complete_ofSpelling (spelled : name.SpelledBy chars) :
    (ofSpelling chars).complete = .ok name := by
  simp [complete, ofSpelling, spelled.complete]

/-- A name is read behind its first character. -/
theorem foldlM_push_first {first : Char} {rest : List Char}
    (spelled : name.SpelledBy (first :: rest)) :
    rest.foldlM push { chars := [first] } = .ok (ofSpelling (first :: rest)) := by
  obtain ⟨_, _, same, _, noColon, once⟩ := spelled.exists_cons
  cases same
  rw [foldlM_push (by simp) (fun c member => spelled.legal c (List.mem_cons_of_mem _ member))
    (by simpa using once)]
  simp [ofSpelling, Ne.symm noColon]

/-- A name is read from its first character on. -/
theorem foldlM_push_spelled (spelled : name.SpelledBy chars) :
    chars.foldlM push {} = .ok (ofSpelling chars) := by
  obtain ⟨first, rest, rfl, start, noColon, _⟩ := spelled.exists_cons
  have pushed : ({} : PartialName).push first = .ok { chars := [first] } := by
    simp [push, noColon, start]
  rw [List.foldlM_cons, pushed]
  exact foldlM_push_first spelled

end PartialName

/-! ## References -/

namespace Reference

/-- A reference with one more character. -/
def push (name : List Char) (c : Char) : Except ReadError (List Char) :=
  if admits name c then .ok (c :: name) else .error .malformedReference

/-- What stands between the marks of a reference to a character. -/
structure Denotes (name : List Char) (c : Char) : Prop where
  plain : ∀ c ∈ name, c ∉ markChars
  read : name.foldlM push [] = .ok name.reverse
  known : ofChars .v10 name = .ok (.character c)

end Reference

/-- A character is written as it is or, where it might be taken for a mark, by a reference to it. -/
theorem escapeText_cases (c : Char) :
    (c ∉ ['&', '<', '>'] ∧ escapeText c = [c]) ∨
      ∃ name, Reference.Denotes name c ∧ escapeText c = '&' :: (name ++ [';']) := by
  unfold escapeText
  split
  case h_4 amp lt gt => exact .inl ⟨by simpa using ⟨amp, lt, gt⟩, rfl⟩
  · exact .inr ⟨['a', 'm', 'p'], ⟨by simp [markChars], rfl, rfl⟩, rfl⟩
  · exact .inr ⟨['l', 't'], ⟨by simp [markChars], rfl, rfl⟩, rfl⟩
  · exact .inr ⟨['g', 't'], ⟨by simp [markChars], rfl, rfl⟩, rfl⟩

/-- In a value, quotes and the ends of lines are written by references too. -/
theorem escapeValue_cases (c : Char) :
    (c ∉ ['&', '<', '>', '"', '\''] ∧ escapeValue c = [c]) ∨
      ∃ name, Reference.Denotes name c ∧ escapeValue c = '&' :: (name ++ [';']) := by
  unfold escapeValue
  split
  case h_8 amp lt gt quot apos _ _ => exact .inl ⟨by simpa using ⟨amp, lt, gt, quot, apos⟩, rfl⟩
  · exact .inr ⟨['a', 'm', 'p'], ⟨by simp [markChars], rfl, rfl⟩, rfl⟩
  · exact .inr ⟨['l', 't'], ⟨by simp [markChars], rfl, rfl⟩, rfl⟩
  · exact .inr ⟨['g', 't'], ⟨by simp [markChars], rfl, rfl⟩, rfl⟩
  · exact .inr ⟨['q', 'u', 'o', 't'], ⟨by simp [markChars], rfl, rfl⟩, rfl⟩
  · exact .inr ⟨['a', 'p', 'o', 's'], ⟨by simp [markChars], rfl, rfl⟩, rfl⟩
  · exact .inr ⟨['#', 'x', 'A'], ⟨by simp [markChars], rfl, rfl⟩, rfl⟩
  · exact .inr ⟨['#', 'x', 'D'], ⟨by simp [markChars], rfl, rfl⟩, rfl⟩

end SoapDispatch.Xml
