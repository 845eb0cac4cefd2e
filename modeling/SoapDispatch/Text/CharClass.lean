/-!
# Character classes

A class of characters is a list of closed code point intervals. The classes that standards publish
as such lists (white space, name characters) are written down in that form and tested here.
-/

namespace SoapDispatch.Text

/-- A set of characters, given by the closed intervals of code points it consists of. -/
abbrev CharClass := List (Nat × Nat)

namespace CharClass

/-- Whether `c` lies in one of the intervals. -/
def contains (ranges : CharClass) (c : Char) : Bool :=
  ranges.any fun range => range.1 ≤ c.toNat && c.toNat ≤ range.2

/-- Membership is membership in one of the intervals. -/
theorem contains_iff (ranges : CharClass) (c : Char) :
    ranges.contains c = true ↔ ∃ range ∈ ranges, range.1 ≤ c.toNat ∧ c.toNat ≤ range.2 := by
  simp [contains]

end CharClass

end SoapDispatch.Text
