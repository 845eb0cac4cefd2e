import SoapDispatch.Text.CharClass

/-!
# Blank text

A character is blank when Unicode gives it the property `White_Space`. Messages treat text made only
of such characters as absent, and names and codes are read with blank characters removed from
both ends.
-/

namespace SoapDispatch.Text

/-- The characters with the Unicode property `White_Space`. -/
def blankClass : CharClass :=
  [(0x09, 0x0D), (0x20, 0x20), (0x85, 0x85), (0xA0, 0xA0), (0x1680, 0x1680), (0x2000, 0x200A),
    (0x2028, 0x2029), (0x202F, 0x202F), (0x205F, 0x205F), (0x3000, 0x3000)]

/-- Whether a character is white space in the sense of Unicode. -/
def isBlankChar (c : Char) : Bool :=
  blankClass.contains c

/-- Whether a text holds nothing but blank characters; the empty text does. -/
def isBlank (text : String) : Bool :=
  text.toList.all isBlankChar

/-- The text without the blank characters it starts with. -/
def trimStart (text : String) : String :=
  String.ofList (text.toList.dropWhile isBlankChar)

/-- The text without the blank characters at both of its ends. -/
def trim (text : String) : String :=
  String.ofList ((text.toList.dropWhile isBlankChar).reverse.dropWhile isBlankChar).reverse

/-- The text without any of its blank characters. -/
def removeBlanks (text : String) : String :=
  String.ofList (text.toList.filter fun c => !isBlankChar c)

/-- The white space of ASCII is blank. -/
theorem isBlankChar_of_isWhitespace {c : Char} (space : c.isWhitespace = true) :
    isBlankChar c = true := by
  simp only [Char.isWhitespace, Bool.or_eq_true, decide_eq_true_eq] at space
  rcases space with ((rfl | rfl) | rfl) | rfl <;> decide

/-- Dropping a front of characters of one kind leaves nothing exactly when all are of that kind. -/
theorem dropWhile_eq_nil_iff_all (kind : Char → Bool) (chars : List Char) :
    chars.dropWhile kind = [] ↔ chars.all kind = true := by
  induction chars with
  | nil => simp
  | cons c rest inductionHypothesis => by_cases h : kind c <;> simp [h, inductionHypothesis]

/-- A text is blank exactly when trimming its front leaves nothing. -/
theorem trimStart_eq_empty_iff (text : String) : trimStart text = "" ↔ isBlank text = true := by
  rw [trimStart, isBlank, ← dropWhile_eq_nil_iff_all, ← String.ofList_nil, String.ofList_inj]

/-- A text is blank when both of its parts are. -/
theorem isBlank_append (front back : String) :
    isBlank (front ++ back) = (isBlank front && isBlank back) := by
  simp [isBlank, String.toList_append]

/-- Blanks are removed from two texts, one behind the other. -/
theorem removeBlanks_append (front back : String) :
    removeBlanks (front ++ back) = removeBlanks front ++ removeBlanks back := by
  simp [removeBlanks, String.toList_append]

/-- Nothing of a blank text is left. -/
theorem removeBlanks_of_isBlank {text : String} (blank : isBlank text = true) :
    removeBlanks text = "" := by
  rw [removeBlanks, List.filter_eq_nil_iff.2, String.ofList_nil]
  intro c member
  simpa using List.all_eq_true.1 blank c member

/-- Nothing is left of a text exactly when it is blank. -/
theorem removeBlanks_eq_empty_iff (text : String) :
    removeBlanks text = "" ↔ isBlank text = true := by
  constructor
  · intro empty
    have none : text.toList.filter (fun c => !isBlankChar c) = [] :=
      String.ofList_eq_empty_iff.1 empty
    rw [isBlank, List.all_eq_true]
    intro c member
    simpa using List.filter_eq_nil_iff.1 none c member
  · exact removeBlanks_of_isBlank

/-- Once blanks have been removed there are none. -/
theorem removeBlanks_removeBlanks (text : String) :
    removeBlanks (removeBlanks text) = removeBlanks text := by
  simp [removeBlanks]

end SoapDispatch.Text
