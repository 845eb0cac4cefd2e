import SoapDispatch.Config.Environment

/-!
# Letter case

What lowering does to a text. It leaves nothing to be lowered, so it is idempotent. It makes
underscores of underscores only and does not look past them, so a name that is cut at double
underscores may be lowered before or after.
-/

namespace SoapDispatch

namespace Text

/-! ## Nothing is left to be lowered -/

namespace CaseRun

/-- Whether the code points from `first` to `last`, of which `even` tells that they have one parity,
lie apart from those of a run. -/
def misses (first last : Nat) (even : Bool) (run : CaseRun) : Bool :=
  Nat.blt last run.first || Nat.blt run.last first ||
    (even && Nat.beq run.step 2 && Nat.beq ((first + run.first) % 2) 1)

/-- Whether what a run becomes lies apart from another run. -/
def leaves (run other : CaseRun) : Bool :=
  misses (run.lower run.first) (run.lower run.last) (run.step == 2 || run.first == run.last) other

/-- What a run becomes is not in a run that it leaves. -/
theorem not_covers_lower {run other : CaseRun} {code : Nat} (covered : run.covers code = true)
    (leaves : run.leaves other = true) (positive : 0 ≤ (run.first : Int) + run.shift) :
    other.covers (run.lower code) = false := by
  rw [← Bool.not_eq_true]
  intro coveredToo
  simp only [covers, Bool.and_eq_true, decide_eq_true_eq, beq_iff_eq] at covered coveredToo
  simp only [lower, Int.ofNat_eq_natCast] at coveredToo
  simp only [CaseRun.leaves, misses, lower, Bool.or_eq_true, Bool.and_eq_true, Nat.blt_eq,
    Nat.beq_eq, beq_iff_eq, Int.ofNat_eq_natCast] at leaves
  obtain ⟨⟨fromFirst, toLast⟩, inStep⟩ := covered
  obtain ⟨⟨fromOther, toOther⟩, inOther⟩ := coveredToo
  rcases leaves with (before | behind) | ⟨⟨even, two⟩, odd⟩
  · omega
  · omega
  · rw [two] at inOther
    rcases even with same | single
    · rw [same] at inStep
      omega
    · omega

end CaseRun

/-- No run has a character that one of them becomes. -/
theorem leaves_of_mem {run other : CaseRun} (member : run ∈ caseRuns) (listed : other ∈ caseRuns) :
    run.leaves other = true := by
  have all : (caseRuns.all fun run => caseRuns.all run.leaves) = true := by decide +kernel
  exact List.all_eq_true.1 (List.all_eq_true.1 all run member) other listed

/-- Whether a character stays as it is. -/
def IsLower (c : Char) : Prop :=
  lowerChar c = [c]

instance (c : Char) : Decidable (IsLower c) :=
  inferInstanceAs (Decidable (lowerChar c = [c]))

/-- A character in no run stays as it is. -/
theorem isLower_of_uncovered {c : Char} (plain : c ≠ 'İ')
    (uncovered : ∀ run ∈ caseRuns, run.covers c.toNat = false) : IsLower c := by
  have none : caseRuns.find? (·.covers c.toNat) = none :=
    List.find?_eq_none.2 fun run member => by simp [uncovered run member]
  rw [IsLower, lowerChar, if_neg plain, none]

/-- What a character of a run becomes stays as it is, and lies behind the underscore or is none. -/
theorem isLower_ofNat_lower {run : CaseRun} {code : Nat} (member : run ∈ caseRuns)
    (covered : run.covers code = true) :
    IsLower (Char.ofNat (run.lower code)) ∧ Char.ofNat (run.lower code) ≠ '_' := by
  have positive : ∀ run ∈ caseRuns, 0x5F < (run.first : Int) + run.shift := by decide +kernel
  have dotless : ∀ run ∈ caseRuns, run.leaves ⟨0x130, 0x130, 1, 0⟩ = true := by decide +kernel
  have zero : ∀ run ∈ caseRuns, run.covers 0 = false := by decide +kernel
  have behind := positive run member
  -- A code point that is no character gives the first one, which is in no run either.
  have code_eq : (Char.ofNat (run.lower code)).toNat = run.lower code ∨
      Char.ofNat (run.lower code) = Char.ofNat 0 := by
    by_cases valid : (run.lower code).isValidChar
    · rw [Char.ofNat, dif_pos valid]
      exact .inl rfl
    · rw [Char.ofNat, dif_neg valid]
      exact .inr rfl
  rcases code_eq with same | first
  · have beyond : 0x5F < run.lower code := by
      simp only [CaseRun.covers, Bool.and_eq_true, decide_eq_true_eq] at covered
      simp only [CaseRun.lower, Int.ofNat_eq_natCast]
      omega
    refine ⟨isLower_of_uncovered ?_ fun other listed => ?_, ?_⟩
    · intro dotted
      have apart := CaseRun.not_covers_lower covered (dotless run member) (by omega)
      rw [← same, dotted] at apart
      exact absurd apart (by decide)
    · rw [same]
      exact CaseRun.not_covers_lower covered (leaves_of_mem member listed) (by omega)
    · intro underscore
      rw [underscore] at same
      have code : '_'.toNat = 0x5F := rfl
      omega
  · rw [first]
    exact ⟨isLower_of_uncovered (by decide) zero, by decide⟩

/-- What a character becomes stays as it is, and is an underscore only if the character is. -/
theorem isLower_of_mem_lowerChar {c d : Char} (member : d ∈ lowerChar c) :
    IsLower d ∧ (d = '_' → c = '_') := by
  unfold lowerChar at member
  by_cases plain : c = 'İ'
  · rw [if_pos plain] at member
    rcases List.mem_cons.1 member with rfl | last
    · exact ⟨by decide +kernel, fun same => absurd same (by decide)⟩
    · rw [List.mem_singleton.1 last]
      exact ⟨by decide +kernel, fun same => absurd same (by decide)⟩
  · rw [if_neg plain] at member
    split at member
    · next run found =>
      rw [List.mem_singleton.1 member]
      have covered : run.covers c.toNat = true :=
        List.find?_some (p := fun run : CaseRun => run.covers c.toNat) found
      obtain ⟨lower, other⟩ := isLower_ofNat_lower (List.mem_of_find?_eq_some found) covered
      exact ⟨lower, fun same => absurd same other⟩
    · next none =>
      rw [List.mem_singleton.1 member]
      refine ⟨isLower_of_uncovered plain fun run listed => ?_, id⟩
      simpa using List.find?_eq_none.1 none run listed

/-- What a character becomes among others stays as it is as well. -/
theorem isLower_of_mem_lowerAt {before rest : List Char} {c d : Char}
    (member : d ∈ lowerAt before c rest) : IsLower d ∧ (d = '_' → c = '_') := by
  unfold lowerAt at member
  split at member
  · have sigma : IsLower 'ς' ∧ IsLower 'σ' := by decide +kernel
    rw [List.mem_singleton.1 member]
    split
    · exact ⟨sigma.1, fun same => absurd same (by decide)⟩
    · exact ⟨sigma.2, fun same => absurd same (by decide)⟩
  · exact isLower_of_mem_lowerChar member

/-- Every character becomes something. -/
theorem lowerAt_ne_nil (before : List Char) (c : Char) (rest : List Char) :
    lowerAt before c rest ≠ [] := by
  unfold lowerAt lowerChar
  split
  · exact List.cons_ne_nil _ _
  · split
    · exact List.cons_ne_nil _ _
    · split <;> exact List.cons_ne_nil _ _

/-- All characters of a lowered text stay as they are. -/
theorem isLower_of_mem_lowerChars {before chars : List Char} {d : Char}
    (member : d ∈ lowerChars before chars) : IsLower d := by
  induction chars generalizing before with
  | nil => exact absurd member List.not_mem_nil
  | cons c rest inductionHypothesis =>
    rcases List.mem_append.1 member with own | later
    · exact (isLower_of_mem_lowerAt own).1
    · exact inductionHypothesis later

/-- Characters that each stay as they are stay so together. -/
theorem lowerChars_of_isLower {before chars : List Char} (lower : ∀ c ∈ chars, IsLower c) :
    lowerChars before chars = chars := by
  induction chars generalizing before with
  | nil => rfl
  | cons c rest inductionHypothesis =>
    obtain ⟨own, others⟩ := List.forall_mem_cons.1 lower
    have other : c ≠ 'Σ' := by
      rintro rfl
      exact absurd own (by decide +kernel)
    rw [lowerChars, lowerAt, if_neg other, own, inductionHypothesis others, List.singleton_append]

/-- A lowered text stays as it is. -/
@[simp] theorem lowercase_lowercase (text : String) :
    lowercase (lowercase text) = lowercase text := by
  have lower : ∀ c ∈ lowerChars [] text.toList, IsLower c :=
    fun _ member => isLower_of_mem_lowerChars member
  rw [lowercase, lowercase, String.toList_ofList, lowerChars_of_isLower lower]

/-! ## Underscores part what is lowered -/

/-- Lowering does not look back past an underscore. -/
theorem lowerChars_behind_underscore (near far chars : List Char) :
    lowerChars (near ++ '_' :: far) chars = lowerChars near chars := by
  induction chars generalizing near with
  | nil => rfl
  | cons c rest inductionHypothesis =>
    have behind := inductionHypothesis (c :: near)
    rw [List.cons_append] at behind
    rw [lowerChars, lowerChars, lowerAt, lowerAt, endsWord, endsWord,
      meetsCased_append_underscore, behind]

/-- Lowering does not look ahead past an underscore, and leaves it alone. -/
theorem lowerChars_append_underscore (before front rest : List Char) :
    lowerChars before (front ++ '_' :: rest) =
      lowerChars before front ++ '_' :: lowerChars [] rest := by
  have own : lowerChar '_' = ['_'] := by decide +kernel
  induction front generalizing before with
  | nil =>
    have first : lowerChars before ('_' :: rest) = '_' :: lowerChars ('_' :: before) rest := by
      rw [lowerChars, lowerAt, if_neg (by decide), own, List.singleton_append]
    rw [List.nil_append, first]
    exact congrArg ('_' :: ·) (lowerChars_behind_underscore [] before rest)
  | cons c front inductionHypothesis =>
    rw [List.cons_append, lowerChars, lowerChars, inductionHypothesis, lowerAt, lowerAt, endsWord,
      endsWord, meetsCased_append_underscore, List.append_assoc]

end Text

/-! ## Names that are cut -/

namespace Config

open Text (lowerChars)

/-- The first part of what is cut ends at an underscore, or is all there is. -/
theorem exists_cutAtDouble_eq (chars : List Char) : ∃ part parts,
    cutAtDouble chars = part :: parts ∧ (chars = part ∨ ∃ rest, chars = part ++ '_' :: rest) := by
  fun_induction cutAtDouble chars with
  | case1 rest => exact ⟨[], _, rfl, .inr ⟨_, rfl⟩⟩
  | case2 c rest _ part parts cut inductionHypothesis =>
    obtain ⟨own, others, same, shape⟩ := inductionHypothesis
    obtain ⟨rfl, rfl⟩ := List.cons.inj (cut.symm.trans same)
    refine ⟨_, _, rfl, ?_⟩
    rcases shape with rfl | ⟨last, rfl⟩
    · exact .inl rfl
    · exact .inr ⟨last, rfl⟩
  | case3 c rest _ cut inductionHypothesis =>
    obtain ⟨own, others, same, _⟩ := inductionHypothesis
    exact nomatch cut.symm.trans same
  | case4 => exact ⟨[], [], rfl, .inl rfl⟩

/-- A character that does not start a double underscore stays in the part it is in. -/
theorem cutAtDouble_cons {c : Char} {rest part : List Char} {parts : List (List Char)}
    (single : ∀ others, c = '_' → rest ≠ '_' :: others)
    (cut : cutAtDouble rest = part :: parts) :
    cutAtDouble (c :: rest) = (c :: part) :: parts := by
  rw [cutAtDouble.eq_2 c rest fun others same next => single others same next, cut]

/-- Characters without an underscore stay in the part they are in. -/
theorem cutAtDouble_append {front rest part : List Char} {parts : List (List Char)}
    (none : '_' ∉ front) (cut : cutAtDouble rest = part :: parts) :
    cutAtDouble (front ++ rest) = (front ++ part) :: parts := by
  induction front with
  | nil => exact cut
  | cons c front inductionHypothesis =>
    rw [List.mem_cons, not_or] at none
    exact cutAtDouble_cons (fun _ same => absurd same.symm none.1) (inductionHypothesis none.2)

/-- What is cut off is lowered by itself, except that the first part may be behind something. -/
theorem cutAtDouble_lowerChars_behind (before chars : List Char) :
    cutAtDouble (lowerChars before chars) =
      match cutAtDouble chars with
      | [] => []
      | part :: parts => lowerChars before part :: parts.map (lowerChars []) := by
  fun_induction cutAtDouble chars generalizing before with
  | case1 rest inductionHypothesis =>
    have first := Text.lowerChars_append_underscore before [] ('_' :: rest)
    have second := Text.lowerChars_append_underscore [] [] rest
    rw [List.nil_append] at first second
    rw [first, second]
    obtain ⟨part, parts, cut, _⟩ := exists_cutAtDouble_eq rest
    have later := inductionHypothesis []
    rw [cut] at later
    simp only [lowerChars, List.nil_append, List.map_cons, cutAtDouble, later, cut]
  | case2 c rest single part parts cut inductionHypothesis =>
    have ahead : Text.meetsCased rest = Text.meetsCased part := by
      obtain ⟨own, others, same, shape⟩ := exists_cutAtDouble_eq rest
      obtain ⟨rfl, rfl⟩ := List.cons.inj (cut.symm.trans same)
      rcases shape with rfl | ⟨last, rfl⟩
      · rfl
      · rw [Text.meetsCased_append_underscore]
    have later := inductionHypothesis (c :: before)
    rw [cut] at later
    have own : Text.lowerAt before c rest = Text.lowerAt before c part := by
      rw [Text.lowerAt, Text.lowerAt, Text.endsWord, Text.endsWord, ahead]
    simp only [lowerChars, own]
    by_cases underscore : c = '_'
    · subst underscore
      have alone : Text.lowerAt before '_' part = ['_'] := by
        have kept : Text.lowerChar '_' = ['_'] := by decide +kernel
        rw [Text.lowerAt, if_neg (by decide), kept]
      -- What follows starts with no underscore, before lowering and after.
      have next : ∀ others, lowerChars ('_' :: before) rest ≠ '_' :: others := by
        intro others shape
        cases rest with
        | nil => cases shape
        | cons r last =>
          obtain ⟨d, tail, made⟩ := List.exists_cons_of_ne_nil
            (Text.lowerAt_ne_nil ('_' :: before) r last)
          rw [lowerChars, made, List.cons_append] at shape
          obtain ⟨rfl, _⟩ := List.cons.inj shape
          have member : '_' ∈ Text.lowerAt ('_' :: before) r last := made ▸ List.mem_cons_self
          exact single last rfl (congrArg (· :: last) ((Text.isLower_of_mem_lowerAt member).2 rfl))
      rw [alone, List.singleton_append, List.singleton_append]
      exact cutAtDouble_cons (fun others _ => next others) later
    · have none : '_' ∉ Text.lowerAt before c part :=
        fun member => underscore ((Text.isLower_of_mem_lowerAt member).2 rfl)
      exact cutAtDouble_append none later
  | case3 c rest _ cut _ =>
    obtain ⟨own, others, same, _⟩ := exists_cutAtDouble_eq rest
    exact nomatch cut.symm.trans same
  | case4 => rfl

/-- A name may be lowered before it is cut, or part by part afterwards. -/
theorem cutAtDouble_lowerChars (chars : List Char) :
    cutAtDouble (lowerChars [] chars) = (cutAtDouble chars).map (lowerChars []) := by
  obtain ⟨part, parts, cut, _⟩ := exists_cutAtDouble_eq chars
  rw [cutAtDouble_lowerChars_behind, cut, List.map_cons]

end Config

end SoapDispatch
