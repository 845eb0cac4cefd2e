import SoapDispatch.Proofs.Likeness

/-!
# The case of keys

Which keys may be spelled in another case. Those of a file may, wherever they are outside of tags,
and so may the names of variables, for both are lowered. The keys in the value of a variable are
not; they may be spelled otherwise all the same, unless the value is that of a section and one of
the spellings is the key of a setting.
-/

namespace SoapDispatch.Config

open SoapDispatch.Yaml (Value)
open SoapDispatch.Settings (nameOf? Legible keysNamed Seen)

/-! ## Other spellings -/

mutual

/-- Whether two values are the same but for the case of keys, outside of tags. -/
def Respelled : Value → Value → Prop
  | .mapping entries, .mapping others => RespelledEntries entries others
  | .sequence items, .sequence others => RespelledItems items others
  | value, other => value = other

/-- Whether two lists hold the same values but for the case of keys. -/
def RespelledItems : List Value → List Value → Prop
  | [], [] => True
  | item :: rest, other :: others => Respelled item other ∧ RespelledItems rest others
  | _, _ => False

/-- Whether two lists hold the same entries but for the case of keys. -/
def RespelledEntries : Entries → Entries → Prop
  | [], [] => True
  | (key, value) :: rest, (own, other) :: others =>
    lowerKey key = lowerKey own ∧ Respelled value other ∧ RespelledEntries rest others
  | _, _ => False

end

mutual

/-- Lowering does not tell in which case keys were. -/
theorem lowerKeys_of_respelled : ∀ {value other : Value}, Respelled value other →
    lowerKeys value = lowerKeys other
  | .mapping entries, other, respelled => by
    cases other with
    | mapping others =>
      rw [lowerKeys, lowerKeys, lowerEntries_of_respelled respelled]
    | _ => cases respelled
  | .sequence items, other, respelled => by
    cases other with
    | sequence others => rw [lowerKeys, lowerKeys, lowerItems_of_respelled respelled]
    | _ => cases respelled
  | .null, other, respelled | .bool _, other, respelled | .int _, other, respelled
  | .real _, other, respelled | .text _, other, respelled | .tagged _ _, other, respelled => by
    cases other <;> exact congrArg lowerKeys respelled

theorem lowerItems_of_respelled : ∀ {items others : List Value}, RespelledItems items others →
    lowerItems items = lowerItems others
  | [], others, respelled => by
    cases others with
    | nil => rfl
    | cons => exact respelled.elim
  | item :: rest, others, respelled => by
    cases others with
    | nil => exact respelled.elim
    | cons other others =>
      rw [lowerItems, lowerItems, lowerKeys_of_respelled respelled.1,
        lowerItems_of_respelled respelled.2]

theorem lowerEntries_of_respelled : ∀ {entries others done : Entries},
    RespelledEntries entries others → lowerEntries done entries = lowerEntries done others
  | [], others, done, respelled => by
    cases others with
    | nil => rfl
    | cons => exact respelled.elim
  | (key, value) :: rest, others, done, respelled => by
    cases others with
    | nil => exact respelled.elim
    | cons other others =>
      obtain ⟨same, inner, later⟩ := respelled
      rw [lowerEntries, lowerEntries, same, lowerKeys_of_respelled inner,
        lowerEntries_of_respelled later]

end

/-- Files whose keys are spelled otherwise give the same tree. -/
theorem layered_of_respelled {file other : Value} (respelled : Respelled file other) :
    layered file = layered other := by
  have nothing : file.untagged = .null ↔ other.untagged = .null := by
    cases file <;> cases other <;> simp_all [Respelled, Value.untagged]
  rw [layered, layered, lowerKeys_of_respelled respelled, if_congr nothing rfl rfl]

/-! ## Names of variables -/

/-- What follows a text is behind it. -/
theorem after?_append (start rest : List Char) : after? start (start ++ rest) = some rest := by
  induction start with
  | nil => rfl
  | cons c start inductionHypothesis =>
    rw [List.cons_append, after?, if_pos rfl, inductionHypothesis]

/-- The path of a variable is its name, from its start on, lowered and cut. -/
theorem path?_append (rest value : String) : Assignment.path? ⟨variableStart ++ rest, value⟩ =
    some ((cutAtDouble (Text.lowerChars [] rest.toList)).map fun part =>
      .text (String.ofList part)) := by
  rw [Assignment.path?, String.toList_append, after?_append, Option.map_some,
    cutAtDouble_lowerChars, List.map_map]
  refine congrArg some (List.map_congr_left fun part _ => ?_)
  rw [Text.lowercase, String.toList_ofList]
  rfl

/-- Names of variables that are the same in lower case, from their start on, name the same path. -/
theorem path?_eq_of_lowercase_eq {rest own : String} (value other : String)
    (same : Text.lowercase rest = Text.lowercase own) :
    Assignment.path? ⟨variableStart ++ rest, value⟩ =
      Assignment.path? ⟨variableStart ++ own, other⟩ := by
  have chars : Text.lowerChars [] rest.toList = Text.lowerChars [] own.toList :=
    String.ofList_injective same
  rw [path?_append, path?_append, chars]

/-! ## Values of variables -/

/-- Keys that are the same in lower case are the same or two texts. -/
theorem eq_or_texts_of_lowerKey_eq {key own : Value} (same : lowerKey key = lowerKey own) :
    key = own ∨ ∃ name other, key = .text name ∧ own = .text other := by
  cases key with
  | text name =>
    cases own with
    | text other => exact .inr ⟨name, other, rfl, rfl⟩
    | _ => cases same
  | _ =>
    cases own with
    | text other => cases same
    | _ => exact .inl same

/-- Whether two entries are the same but for the case of keys. -/
def RespelledEntry (entry other : Value × Value) : Prop :=
  lowerKey entry.1 = lowerKey other.1 ∧ Respelled entry.2 other.2

/-- Entries that are spelled otherwise are so one by one. -/
theorem forall₂_respelledEntry {entries others : Entries}
    (respelled : RespelledEntries entries others) :
    List.Forall₂ RespelledEntry entries others := by
  induction entries generalizing others with
  | nil =>
    cases others with
    | nil => exact .nil
    | cons => exact respelled.elim
  | cons entry rest inductionHypothesis =>
    cases others with
    | nil => exact respelled.elim
    | cons other others =>
      obtain ⟨same, inner, later⟩ := respelled
      exact .cons ⟨same, inner⟩ (inductionHypothesis later)

/-- The case of keys does not matter to whether they stand for names. -/
theorem legible_of_respelled {entries others : Entries}
    (each : List.Forall₂ RespelledEntry entries others) : Legible entries ↔ Legible others := by
  induction each with
  | nil => exact Iff.rfl
  | @cons entry other _ _ first _ inductionHypothesis =>
    have both : (nameOf? entry.1).isSome = (nameOf? other.1).isSome := by
      rcases eq_or_texts_of_lowerKey_eq first.1 with equal | ⟨_, _, text, textToo⟩
      · rw [equal]
      · rw [text, textToo]
        rfl
    simp only [Legible, Entries.keys, List.map_cons, List.forall_mem_cons, both]
    exact and_congr_right fun _ => inductionHypothesis

variable {seen : List String → Prop}

/-- Values that are spelled otherwise are the same, two sequences or two mappings. -/
theorem Respelled.shape {value other : Value} (respelled : Respelled value other) :
    value = other ∨ (∃ items others, value = .sequence items ∧ other = .sequence others) ∨
      ∃ entries others, value = .mapping entries ∧ other = .mapping others ∧
        List.Forall₂ RespelledEntry entries others := by
  cases value with
  | mapping entries =>
    cases other with
    | mapping others =>
      exact .inr (.inr ⟨entries, others, rfl, rfl, forall₂_respelledEntry respelled⟩)
    | _ => cases respelled
  | sequence items =>
    cases other with
    | sequence others => exact .inr (.inl ⟨items, others, rfl, rfl⟩)
    | _ => cases respelled
  | _ =>
    cases other with
    | _ => exact .inl respelled

/-- Where no key is on a path that is seen, keys may be spelled otherwise. -/
theorem alike_of_respelled {value other : Value} (nothing : ∀ name rest, ¬ seen (name :: rest))
    (respelled : Respelled value other) : Alike seen value other := by
  rcases respelled.shape with rfl | ⟨items, others, rfl, rfl⟩ | ⟨entries, others, rfl, rfl, each⟩
  · exact .same value
  · exact .sequence
  · refine .mapping (legible_of_respelled each) ?_ fun _ name _ _ _ _ _ => .unseen (nothing name)
    exact fun name rest path => absurd path (nothing name rest)

/-- Whether a name is that of the same of the keys of two mappings. -/
def SameNamed (name : String) (entries others : Entries) : Prop :=
  List.Forall₂ (fun key own => nameOf? key = some name ↔ nameOf? own = some name)
    entries.keys others.keys

/-- A key that stays one for a name is not spelled otherwise. -/
theorem eq_of_sameNamed {name : String} {key own : Value} (same : lowerKey key = lowerKey own)
    (both : nameOf? key = some name ↔ nameOf? own = some name) (named : nameOf? key = some name) :
    key = own := by
  rcases eq_or_texts_of_lowerKey_eq same with equal | ⟨_, _, rfl, rfl⟩
  · exact equal
  · cases named
    exact congrArg Value.text (Option.some.inj (both.1 rfl)).symm

/-- The keys that stand for a name are the same in mappings where the name is that of the same
keys. -/
theorem keysNamed_of_respelled {name : String} {entries others : Entries}
    (each : List.Forall₂ RespelledEntry entries others) (named : SameNamed name entries others) :
    keysNamed name entries = keysNamed name others := by
  induction each with
  | nil => rfl
  | @cons entry other _ _ first _ inductionHypothesis =>
    obtain ⟨both, next⟩ := List.forall₂_cons.1 named
    have later := inductionHypothesis next
    simp only [keysNamed, Entries.keys, List.map_cons, List.filter_cons] at later ⊢
    by_cases here : nameOf? entry.1 = some name
    · rw [eq_of_sameNamed first.1 both here, later]
    · have there : ¬ nameOf? other.1 = some name := fun own => here (both.2 own)
      rw [if_neg (by simpa using here), if_neg (by simpa using there), later]

/-- What stands under a key for a name is only spelled otherwise in mappings where the name is that
of the same keys. -/
theorem respelled_of_get? {name : String} {entries others : Entries} {key value other : Value}
    (each : List.Forall₂ RespelledEntry entries others) (named : SameNamed name entries others)
    (own : nameOf? key = some name) (found : entries.get? key = some value)
    (foundToo : others.get? key = some other) : Respelled value other := by
  induction each with
  | nil => cases found
  | @cons entry second _ _ first _ inductionHypothesis =>
    obtain ⟨same, inner⟩ := first
    obtain ⟨both, next⟩ := List.forall₂_cons.1 named
    rw [Entries.get?] at found foundToo
    -- The key is that of both entries or of neither, as it stands for the name.
    by_cases here : entry.1 = key
    · have equal : entry.1 = second.1 := eq_of_sameNamed same both (here ▸ own)
      rw [if_pos here] at found
      rw [if_pos (equal ▸ here)] at foundToo
      cases found
      cases foundToo
      exact inner
    · have elsewhere : second.1 ≠ key := by
        intro there
        exact here ((eq_of_sameNamed same.symm both.symm (there ▸ own)) ▸ there)
      rw [if_neg here] at found
      rw [if_neg elsewhere] at foundToo
      exact inductionHypothesis next found foundToo

/-- Whether the same keys of two mappings are those of the settings in a section. -/
def SameSettings (part : String) : Value → Value → Prop
  | .mapping entries, .mapping others =>
    ∀ setting : Setting, setting.part = part → SameNamed setting.key entries others
  | _, _ => True

/-- The value of a section may be spelled otherwise as long as the same keys are those of
settings. -/
theorem alike_section {part : String} {value other : Value} (respelled : Respelled value other)
    (settings : SameSettings part value other) : Alike (below Seen part) value other := by
  rcases respelled.shape with rfl | ⟨items, others, rfl, rfl⟩ | ⟨entries, others, rfl, rfl, each⟩
  · exact .same value
  · exact .sequence
  · refine .mapping (legible_of_respelled each) ?_ ?_
    · rintro name rest ⟨setting, path⟩
      obtain ⟨rfl, tail⟩ := List.cons.inj path
      obtain ⟨rfl, _⟩ := List.cons.inj tail
      rw [keysNamed_of_respelled each (settings setting rfl)]
    · intro key name own value other found foundToo
      by_cases looked : ∃ rest, Seen (part :: name :: rest)
      · obtain ⟨rest, setting, path⟩ := looked
        obtain ⟨rfl, tail⟩ := List.cons.inj path
        obtain ⟨rfl, _⟩ := List.cons.inj tail
        refine alike_of_respelled ?_
          (respelled_of_get? each (settings setting rfl) own found foundToo)
        rintro name rest ⟨setting', path⟩
        exact absurd (congrArg List.length path) (by simp)
      · exact .unseen fun rest path => looked ⟨rest, path⟩

/-! ## Environments and files -/

/-- Whether the name of a variable, from its start on, and its value are spelled otherwise, but for
the keys of settings in the value of a section. -/
structure Assignment.Respelled (assignment other : Assignment) : Prop where
  name : assignment.name = other.name ∨ ∃ rest own, assignment.name = variableStart ++ rest ∧
    other.name = variableStart ++ own ∧ Text.lowercase rest = Text.lowercase own
  value : Config.Respelled assignment.reading other.reading
  settings : ∀ part : String, assignment.path? = some [.text part] →
    SameSettings part assignment.reading other.reading

/-- Variables that are spelled otherwise override alike. -/
theorem Assignment.Respelled.alike {assignment other : Assignment}
    (respelled : assignment.Respelled other) : assignment.Alike Seen other := by
  refine ⟨?_, fun names found => ?_⟩
  · rcases respelled.name with same | ⟨rest, own, named, namedToo, lower⟩
    · rw [Assignment.path?, same, Assignment.path?]
    · obtain ⟨name, value⟩ := assignment
      obtain ⟨name', value'⟩ := other
      cases named
      cases namedToo
      exact path?_eq_of_lowercase_eq value value' lower
  · match names with
    | [] =>
      obtain ⟨rest, _, none⟩ := Option.map_eq_some_iff.1 found
      obtain ⟨part, parts, cut, _⟩ := exists_cutAtDouble_eq rest
      rw [cut] at none
      cases none
    | [part] => exact alike_section respelled.value (respelled.settings part found)
    | first :: second :: rest =>
      refine alike_of_respelled ?_ respelled.value
      rintro name more ⟨setting, path⟩
      exact absurd (congrArg List.length path) (by simp)

/-- The keys of a file, the names of variables, and the keys in their values may be spelled in
another case without changing whether there are settings nor which ones, but for the keys of
settings in the value of a section. -/
theorem fromSources_respelled {file other : Option String} {external own : Value}
    {assignments others : List Assignment} (holds : Holds file external)
    (holdsToo : Holds other own) (respelled : Respelled external own)
    (each : List.Forall₂ Assignment.Respelled assignments others) :
    (fromSources file assignments).toOption = (fromSources other others).toOption := by
  rw [fromSources_of_holds holds, fromSources_of_holds holdsToo, toOption_mapError,
    toOption_mapError, layered_of_respelled respelled]
  have alike : Alike Seen (applyAssignments (layered own) assignments)
      (applyAssignments (layered own) others) :=
    Alike.applyAssignments (.same _) (each.imp fun _ _ => Assignment.Respelled.alike)
  exact Settings.ofTree_like alike (tidy_applyAssignments (tidy_layered own) assignments)
    (tidy_applyAssignments (tidy_layered own) others)

/-- A file, the name of a variable and a key that is no setting's, in two spellings. -/
theorem fromSources_respelled_dispatch :
    let text := "Executor: \x7bWorkers: 8\x7d"
    let own := "EXECUTOR: \x7bworkers: 8\x7d"
    let file : Value := .mapping [(.text "Executor", .mapping [(.text "Workers", .int 8)])]
    let other : Value := .mapping [(.text "EXECUTOR", .mapping [(.text "workers", .int 8)])]
    let first : Assignment :=
      ⟨"PMOSOAP_CONFIG__dispatch", "\x7bNote: 1, disable_thread_switch: true\x7d"⟩
    let second : Assignment :=
      ⟨"PMOSOAP_CONFIG__DISPATCH", "\x7bNOTE: 1, disable_thread_switch: true\x7d"⟩
    let settings : Settings := { workers := 8, disableThreadSwitch := true }
    (Holds (some text) file ∧ Holds (some own) other ∧ Respelled file other ∧
        List.Forall₂ Assignment.Respelled [first] [second]) ∧
      (fromSources (some text) [first]).toOption = some settings ∧
      (fromSources (some own) [second]).toOption = some settings := by
  intro text own file other first second settings
  have holds : Holds (some text) file := by
    show Yaml.read text = .ok file
    decide +kernel
  have holdsToo : Holds (some own) other := by
    show Yaml.read own = .ok other
    decide +kernel
  have files : Respelled file other :=
    ⟨by decide +kernel, ⟨by decide +kernel, rfl, trivial⟩, trivial⟩
  have reading : first.reading = .mapping [(.text "Note", .int 1),
      (.text "disable_thread_switch", .bool true)] := by decide +kernel
  have readingToo : second.reading = .mapping [(.text "NOTE", .int 1),
      (.text "disable_thread_switch", .bool true)] := by decide +kernel
  have pair : first.Respelled second := by
    refine ⟨.inr ⟨"dispatch", "DISPATCH", rfl, rfl, by decide +kernel⟩, ?_, ?_⟩
    · rw [reading, readingToo]
      exact ⟨by decide +kernel, rfl, rfl, rfl, trivial⟩
    · rw [reading, readingToo]
      rintro part _ setting _
      have noted : nameOf? (.text "Note") ≠ some setting.key := by cases setting <;> decide
      have notedToo : nameOf? (.text "NOTE") ≠ some setting.key := by cases setting <;> decide
      exact .cons (iff_of_false noted notedToo) (.cons Iff.rfl .nil)
  have each : List.Forall₂ Assignment.Respelled [first] [second] := .cons pair .nil
  have outcome : (fromSources (some text) [first]).toOption = some settings := by decide +kernel
  exact ⟨⟨holds, holdsToo, files, each⟩, outcome,
    (fromSources_respelled holds holdsToo files each).symm.trans outcome⟩

/-- Not all keys in the values of variables may be spelled otherwise, not even where lowering makes
no two keys of a mapping the same: the key of a setting in the value of a section is not heard in
another case. -/
theorem not_respelled_section :
    ¬ ∀ (file : Option String) (assignments others : List Assignment),
      List.Forall₂ (fun assignment other => assignment.name = other.name ∧
        Respelled assignment.reading other.reading ∧
        Respelled assignment.reading (lowerKeys assignment.reading)) assignments others →
          (fromSources file assignments).toOption = (fromSources file others).toOption := by
  intro claimed
  let capital : Assignment := ⟨"PMOSOAP_CONFIG__EXECUTOR", "\x7bWorkers: 8\x7d"⟩
  let small : Assignment := ⟨"PMOSOAP_CONFIG__EXECUTOR", "\x7bworkers: 8\x7d"⟩
  have reading : capital.reading = .mapping [(.text "Workers", .int 8)] := by decide +kernel
  have readingToo : small.reading = .mapping [(.text "workers", .int 8)] := by decide +kernel
  have lowered : lowerKeys capital.reading = small.reading := by decide +kernel
  have respelled : Respelled capital.reading small.reading := by
    rw [reading, readingToo]
    exact ⟨by decide +kernel, rfl, trivial⟩
  have same := claimed none [capital] [small]
    (.cons ⟨rfl, respelled, lowered.symm ▸ respelled⟩ .nil)
  have unheard : (fromSources none [capital]).toOption = some { workers := 4 } := by decide +kernel
  have heard : (fromSources none [small]).toOption = some { workers := 8 } := by decide +kernel
  exact absurd (unheard.symm.trans (same.trans heard)) (by decide)

end SoapDispatch.Config
