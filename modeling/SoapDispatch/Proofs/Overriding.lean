import SoapDispatch.Proofs.SettingsTrees

/-!
# Overrides as a whole

An override is made or it is not. It is not made if a node on the way along its path is no mapping,
and then the tree is as it was: mappings that are missing on the way are put in where nothing stands
against the rest of the path any more. An override that is made puts its value at its path, keeps
what else the mappings on the way hold, and leaves alone whatever its path neither leads to nor
past.
-/

namespace SoapDispatch.Config

open SoapDispatch.Yaml (Value)

/-! ## Paths -/

/-- The path of keys that names stand for: the names in lower case. -/
def keyPath (names : List String) : List Value :=
  names.map fun name => lowerKey (.text name)

/-- The path of a variable is one that names stand for, at least one of them. -/
theorem Assignment.exists_keyPath {assignment : Assignment} {path : List Value}
    (found : assignment.path? = some path) : ∃ names, names ≠ [] ∧ path = keyPath names := by
  obtain ⟨rest, _, rfl⟩ := Option.map_eq_some_iff.1 found
  refine ⟨(cutAtDouble rest).map String.ofList, ?_, ?_⟩
  · obtain ⟨part, parts, cut, _⟩ := exists_cutAtDouble_eq rest
    simp [cut]
  · rw [keyPath, List.map_map]
    rfl

/-! ## Whether an override is made -/

/-- The entries under all keys but one, in their order. -/
def Entries.others (key : Value) (entries : Entries) : Entries :=
  entries.filter fun entry => entry.1 ≠ key

/-- Putting a value under a key keeps the entries under all others. -/
theorem Entries.others_put (key value : Value) (entries : Entries) :
    (entries.put key value).others key = entries.others key := by
  induction entries with
  | nil => simp [put, others]
  | cons entry rest inductionHypothesis =>
    obtain ⟨name, old⟩ := entry
    rw [put]
    by_cases same : name = key
    · simp [others, same]
    · rw [if_neg same]
      simpa [others, same] using inductionHypothesis

/-- A path is not open if it leads on from a node that is no mapping. -/
theorem not_open_iff {tree : Value} {path : List Value} : ¬ Open tree path ↔
    ∃ front key back node, path = front ++ key :: back ∧ nodeAt? front tree = some node ∧
      node.entries? = none := by
  simp only [Open, not_forall, Bool.not_eq_true, Option.isSome_eq_false_iff,
    Option.isNone_iff_eq_none, exists_prop]
  constructor
  · rintro ⟨front, key, back, split, node, found, leaf⟩
    exact ⟨front, key, back, node, split, found, leaf⟩
  · rintro ⟨front, key, back, node, split, found, leaf⟩
    exact ⟨front, key, back, split, node, found, leaf⟩

section Override

variable {value tree : Value} {path : List Value}

/-- An override is not made where its path is not open, and then it changes nothing. -/
theorem override_of_not_open (blocked : ¬ Open tree path) :
    override value path tree = (tree, false) := by
  induction path generalizing tree with
  | nil => exact absurd (open_nil tree) blocked
  | cons key rest inductionHypothesis =>
    cases shape : tree.entries? with
    | none => exact override_leaf shape key rest
    | some entries =>
      obtain rfl := eq_mapping_of_entries? shape
      -- What stands in the way stands below the first key, so there is a node under it.
      have onward : ¬ ∀ node, Entries.get? key entries = some node → Open node rest :=
        fun clear => blocked (open_cons_iff.2 ⟨entries, rfl, clear⟩)
      push Not at onward
      obtain ⟨node, found, stopped⟩ := onward
      simp only [override_mapping, found, Option.getD_some, inductionHypothesis stopped,
        Entries.put_of_get? found]

/-- An override is made where its path is open. -/
theorem snd_override_of_open (clear : Open tree path) : (override value path tree).2 = true := by
  induction path generalizing tree with
  | nil => rfl
  | cons key rest inductionHypothesis =>
    obtain ⟨entries, rfl, onward⟩ := open_cons_iff.1 clear
    rw [override_mapping]
    exact inductionHypothesis (open_getD onward)

/-- An override is made exactly where its path is open. -/
theorem snd_override_iff : (override value path tree).2 = true ↔ Open tree path := by
  refine ⟨fun made => ?_, snd_override_of_open⟩
  by_contra blocked
  rw [override_of_not_open blocked] at made
  cases made

/-- On the way along an open path an override leaves mappings, in which nothing has changed but what
stands under the next key. -/
theorem exists_entries_override {front back : List Value} {key : Value}
    (clear : Open tree (front ++ key :: back)) : ∃ entries,
      nodeAt? front (override value (front ++ key :: back) tree).1 = some (.mapping entries) ∧
        Entries.others key entries =
          Entries.others key (((nodeAt? front tree).bind Value.entries?).getD []) := by
  induction front generalizing tree with
  | nil =>
    obtain ⟨entries, rfl, _⟩ := open_cons_iff.1 clear
    rw [List.nil_append, override_mapping]
    exact ⟨_, rfl, Entries.others_put key _ entries⟩
  | cons first rest inductionHypothesis =>
    obtain ⟨entries, rfl, onward⟩ := open_cons_iff.1 clear
    obtain ⟨below, found, kept⟩ := inductionHypothesis (open_getD onward)
    refine ⟨below, ?_, kept.trans ?_⟩
    · rw [List.cons_append, override_mapping, nodeAt?, Entries.get?_put_self, Option.bind_some]
      exact found
    · rw [nodeAt?]
      cases Entries.get? first entries with
      | some node => rfl
      | none => cases rest <;> rfl

end Override

/-- An override is made unless a node before the end of its path is no mapping, and nothing changes
if it is not made. If it is, its value stands at its path; what is at a path that is neither a front
of it nor goes on from it stays as it was; and on the way there are mappings that keep what they
hold under other keys. So it is with every variable, whatever tree it is applied to. -/
theorem override_all_or_nothing (names : List String) (value tree : Value) :
    let path := keyPath names
    let (result, made) := override value path tree
    (made = false ↔ ∃ front key back node, path = front ++ key :: back ∧
      nodeAt? front tree = some node ∧ node.entries? = none) ∧
    (made = false → result = tree) ∧
    (made = true →
      nodeAt? path result = some value ∧
      (∀ other, ¬ path <+: other → ¬ other <+: path →
        nodeAt? other result = nodeAt? other tree) ∧
      ∀ front key back, path = front ++ key :: back → ∃ entries,
        nodeAt? front result = some (.mapping entries) ∧
          Entries.others key entries =
            Entries.others key (((nodeAt? front tree).bind Value.entries?).getD [])) ∧
    ∀ assignment : Assignment, assignment.path? = some path → assignment.reading = value →
      assignment.apply tree = if made then result else tree := by
  intro path
  have made_iff : (override value path tree).2 = true ↔ Open tree path := snd_override_iff
  refine ⟨?refusal, ?untouched, ?made, ?applied⟩
  case refusal => rw [← not_open_iff, ← made_iff, Bool.not_eq_true]
  case untouched =>
    intro refused
    have blocked : ¬ Open tree path := by rw [← made_iff, refused]; exact Bool.false_ne_true
    rw [override_of_not_open blocked]
  case made =>
    intro made
    have clear : Open tree path := made_iff.1 made
    refine ⟨nodeAt?_override_self clear, fun other => nodeAt?_override_of_apart, ?_⟩
    intro front key back split
    simp only [split] at clear ⊢
    exact exists_entries_override clear
  case applied =>
    rintro assignment found rfl
    simp only [Assignment.apply, found]
    by_cases clear : Open tree path
    · rw [made_iff.2 clear, if_pos rfl]
    · rw [override_of_not_open clear, if_neg Bool.false_ne_true]

/-- A setting below a number is not overridden, and nothing is put in on the way to it. A setting of
a section that is missing is, beside the sections that are there. -/
theorem override_all_or_nothing_sections :
    let executor : Value := .mapping [(.text "workers", .int 4)]
    let tree : Value := .mapping [(.text "executor", executor)]
    (override (.int 8) (keyPath ["Executor", "Workers", "Most", "Idle"]) tree).1 = tree ∧
    let logged := (override (.text "debug") (keyPath ["LOGGING", "Level"]) tree).1
    nodeAt? [.text "logging", .text "level"] logged = some (.text "debug") ∧
      nodeAt? [.text "executor"] logged = some executor := by
  intro executor tree
  have lowered : keyPath ["LOGGING", "Level"] = [.text "logging", .text "level"] := by
    decide +kernel
  obtain ⟨_, untouched, _⟩ :=
    override_all_or_nothing ["Executor", "Workers", "Most", "Idle"] (.int 8) tree
  obtain ⟨_, _, made, _⟩ := override_all_or_nothing ["LOGGING", "Level"] (.text "debug") tree
  obtain ⟨placed, kept, _⟩ := made (by decide +kernel)
  refine ⟨untouched (by decide +kernel), lowered ▸ placed, (kept _ ?_ ?_).trans rfl⟩ <;>
    decide +kernel

end SoapDispatch.Config
