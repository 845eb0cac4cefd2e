import SoapDispatch.Xml.Region

/-!
# Replacement texts

The text of an entity is read in the place of the reference to it. The characters still to be read
are kept together with what is known of where they come from, so that texts which keep referring to
texts are refused: `Feed.progress` gives a measure that every step of reading makes smaller.
-/

namespace SoapDispatch.Xml

/-- How many replacement texts may be entered before all of them are used up. -/
def replacementLimit : Nat := 10

/-- How many characters of replacement texts may be left when another one is entered. -/
def pendingLimit : Nat := 1000000

/-- The characters still to be read. The first `replaced` of them come from replacement texts;
`budget` more may be entered before these are used up. -/
structure Feed where
  chars : List Char
  replaced : Nat := 0
  budget : Nat := replacementLimit

namespace Feed

/-- The characters of the document itself that are still to be read. -/
def own (feed : Feed) : Nat :=
  feed.chars.length - feed.replaced

/-- The feed after so many characters, which leave `rest`. Who reaches into the document itself has
used up all replacement texts. -/
def advance (feed : Feed) (taken : Nat) (rest : List Char) : Feed where
  chars := rest
  replaced := feed.replaced - taken
  budget := if feed.replaced < taken then replacementLimit else feed.budget

/-- Puts a replacement text in front, if that is still allowed. -/
def enter (feed : Feed) (text : List Char) : Except ReadError Feed :=
  if text.isEmpty then .ok feed
  else if pendingLimit < feed.replaced then .error .endlessEntity
  else
    match feed.budget with
    | 0 => .error .endlessEntity
    | budget + 1 =>
      .ok { chars := text ++ feed.chars, replaced := text.length + feed.replaced, budget }

/-- Entering a text leaves the feed alone or spends one of the texts that may be entered. -/
theorem eq_of_enter {feed next : Feed} {text : List Char} (entered : feed.enter text = .ok next) :
    next = feed ∨ ∃ budget, feed.budget = budget + 1 ∧
      next = {
        chars := text ++ feed.chars
        replaced := text.length + feed.replaced
        budget } := by
  unfold enter at entered
  split at entered
  · exact .inl (Except.ok.inj entered).symm
  · split at entered
    · cases entered
    · split at entered
      · cases entered
      · exact .inr ⟨_, ‹_›, (Except.ok.inj entered).symm⟩

/-- Reading on and entering a replacement text comes to an end: less of the document is left, or
fewer replacement texts may be entered, or fewer characters are left. -/
theorem progress {feed next : Feed} {taken : Nat} {rest text : List Char} (positive : 0 < taken)
    (split : feed.chars.length = taken + rest.length)
    (entered : (feed.advance taken rest).enter text = .ok next) :
    Prod.Lex (· < ·) (Prod.Lex (· < ·) (· < ·))
      (next.own, next.budget, next.chars.length) (feed.own, feed.budget, feed.chars.length) := by
  by_cases past : feed.replaced < taken
  · left
    rcases eq_of_enter entered with rfl | ⟨_, _, rfl⟩
    · simp [own, advance]
      omega
    · simp [own, advance]
      omega
  · have unspent : (feed.advance taken rest).budget = feed.budget := by simp [advance, past]
    have same : (feed.advance taken rest).own = feed.own := by
      simp [own, advance]
      omega
    rcases eq_of_enter entered with rfl | ⟨budget, spent, rfl⟩
    · rw [same, unspent]
      right
      right
      simp [advance]
      omega
    · rw [unspent] at spent
      have own_eq : ({ chars := text ++ (feed.advance taken rest).chars,
                       replaced := text.length + (feed.advance taken rest).replaced,
                       budget } : Feed).own = feed.own := by
        rw [← same]
        simp [own]
        omega
      rw [own_eq, spent]
      right
      left
      simp

end Feed

end SoapDispatch.Xml
