import SoapDispatch.Proofs.Likeness

/-!
# The order of variables

Overrides of which neither path leads to the other's or past it may change places. The trees that
they make in either order differ at most in the order of their entries, so it does not matter in
which order the variables of an environment are listed.
-/

namespace SoapDispatch.Config

open SoapDispatch.Yaml (Value)

/-! ## Overrides that change places -/

/-- Of two values put under the same key, the later stays. -/
theorem Entries.put_put (key value later : Value) (entries : Entries) :
    (entries.put key value).put key later = entries.put key later := by
  induction entries with
  | nil => simp [put]
  | cons entry rest inductionHypothesis =>
    obtain ⟨name, old⟩ := entry
    by_cases same : name = key <;> simp [put, same, inductionHypothesis]

/-- Mappings with the same keys, in whichever order, and the same values under them are alike. -/
theorem AlikeEntries.of_perm {seen : List String → Prop} {entries others : Entries}
    (keys : entries.keys.Perm others.keys) (values : ∀ key, entries.get? key = others.get? key) :
    AlikeEntries seen entries others where
  legible := ⟨fun legible key member => legible key (keys.mem_iff.2 member),
    fun legible key member => legible key (keys.mem_iff.1 member)⟩
  heard _ _ _ := keys.filter _
  inside key _ _ value other found again := by
    obtain rfl := Option.some.inj (found.symm.trans ((values key).trans again))
    exact .same value

/-- Values put under different keys may change places. -/
theorem AlikeEntries.put_put {seen : List String → Prop} {key other : Value}
    (distinct : key ≠ other) (value own : Value) (entries : Entries) :
    AlikeEntries seen ((entries.put key value).put other own)
      ((entries.put other own).put key value) := by
  refine .of_perm ?_ fun name => ?_
  · simp only [Entries.keys_put]
    by_cases first : key ∈ entries.keys <;> by_cases second : other ∈ entries.keys
    · simp [first, second]
    · simp [first, second]
    · simp [first, second]
    · simpa [first, second, distinct, distinct.symm] using
        (List.Perm.swap other key []).append_left entries.keys
  · by_cases first : name = key
    · subst first
      rw [Entries.get?_put_of_ne distinct, Entries.get?_put_self, Entries.get?_put_self]
    · by_cases second : name = other
      · subst second
        rw [Entries.get?_put_self, Entries.get?_put_of_ne first, Entries.get?_put_self]
      · rw [Entries.get?_put_of_ne second, Entries.get?_put_of_ne first,
          Entries.get?_put_of_ne first, Entries.get?_put_of_ne second]

/-- Overrides of which neither path leads to the other's or past it may change places. -/
theorem alike_override_override {seen : List String → Prop} {path other : List String}
    {value own : Value} (tree : Value) (short : ¬ path <+: other) (long : ¬ other <+: path) :
    Alike seen
      (override own (other.map .text) (override value (path.map .text) tree).1).1
      (override value (path.map .text) (override own (other.map .text) tree).1).1 := by
  induction path generalizing seen other tree with
  | nil => exact absurd List.nil_prefix short
  | cons name rest inductionHypothesis =>
    cases other with
    | nil => exact absurd List.nil_prefix long
    | cons first others =>
      rw [List.map_cons, List.map_cons]
      cases shape : tree.entries? with
      | none =>
        simp only [override_leaf shape]
        exact .same _
      | some entries =>
        obtain rfl := eq_mapping_of_entries? shape
        simp only [override_mapping]
        -- Under one key both go on below it; under two keys they never meet again.
        by_cases same : name = first
        · subst same
          rw [List.cons_prefix_cons, not_and] at short long
          rw [Entries.get?_put_self, Entries.get?_put_self, Entries.put_put, Entries.put_put]
          refine ((AlikeEntries.refl entries).put ?_).alike
          exact inductionHypothesis _ (short rfl) (long rfl)
        · have distinct : Value.text name ≠ .text first := fun equal => same (Value.text.inj equal)
          rw [Entries.get?_put_of_ne distinct, Entries.get?_put_of_ne distinct.symm]
          exact (AlikeEntries.put_put distinct ..).alike

/-! ## Environments in another order -/

/-- Whether neither of two variables overrides what the other one does, nor what is on the way to it
or past it. -/
def Assignment.Apart (assignment other : Assignment) : Prop :=
  ∀ path, assignment.path? = some path → ∀ own, other.path? = some own →
    ¬ path <+: own ∧ ¬ own <+: path

/-- Variables are apart from each other. -/
theorem Assignment.Apart.symm {assignment other : Assignment} (apart : assignment.Apart other) :
    other.Apart assignment :=
  fun path found own foundToo => (apart own foundToo path found).symm

/-- Assignments to paths that are apart may change places. -/
theorem alike_apply_apply {seen : List String → Prop} {assignment other : Assignment}
    (apart : assignment.Apart other) (tree : Value) :
    Alike seen (other.apply (assignment.apply tree)) (assignment.apply (other.apply tree)) := by
  cases found : assignment.path? with
  | none =>
    have idle (tree : Value) : assignment.apply tree = tree := by rw [Assignment.apply, found]
    rw [idle, idle]
    exact .same _
  | some path =>
    cases foundToo : other.path? with
    | none =>
      have idle (tree : Value) : other.apply tree = tree := by rw [Assignment.apply, foundToo]
      rw [idle, idle]
      exact .same _
    | some own =>
      obtain ⟨short, long⟩ := apart path found own foundToo
      obtain ⟨names, rfl⟩ := Assignment.exists_names found
      obtain ⟨others, rfl⟩ := Assignment.exists_names foundToo
      simp only [Assignment.apply, found, foundToo]
      exact alike_override_override tree (fun front => short (front.map Value.text))
        fun front => long (front.map Value.text)

/-- Trees that are alike after some assignments are so after others. -/
theorem alike_applyAssignments {seen : List String → Prop} {tree other : Value}
    (alike : Alike seen tree other) (assignments : List Assignment) :
    Alike seen (applyAssignments tree assignments) (applyAssignments other assignments) :=
  alike.applyAssignments (List.forall₂_same.2 fun assignment _ => .refl assignment)

/-- Overrides that are apart lead to trees that are read as the same settings, or as none, in
whichever order they are made. -/
theorem ofTree_perm {tree : Value} {assignments others : List Assignment} (tidy : Tidy tree)
    (perm : assignments.Perm others) (apart : assignments.Pairwise Assignment.Apart) :
    (Settings.ofTree (applyAssignments tree assignments)).toOption =
      (Settings.ofTree (applyAssignments tree others)).toOption := by
  -- Outcomes are compared, not trees: these are only alike, and outcomes can be chained.
  induction perm generalizing tree with
  | nil => rfl
  | cons assignment _ inductionHypothesis =>
    have after := tidy_applyAssignments tidy [assignment]
    exact inductionHypothesis after (List.pairwise_cons.1 apart).2
  | swap first second rest =>
    have pair : second.Apart first := (List.pairwise_cons.1 apart).1 first List.mem_cons_self
    exact Settings.ofTree_like (alike_applyAssignments (alike_apply_apply pair tree) rest)
      (tidy_applyAssignments tidy (second :: first :: rest))
      (tidy_applyAssignments tidy (first :: second :: rest))
  | trans first _ firstHypothesis secondHypothesis =>
    have between := (first.pairwise_iff Assignment.Apart.symm).1 apart
    exact (firstHypothesis tidy apart).trans (secondHypothesis tidy between)

/-- Variables that are apart give the same settings, or none, in whichever order they are listed. -/
theorem fromSources_perm (file : Option String) {assignments others : List Assignment}
    (perm : assignments.Perm others) (apart : assignments.Pairwise Assignment.Apart) :
    (fromSources file assignments).toOption = (fromSources file others).toOption := by
  have ofHeld {external : Value} (holds : Holds file external) :
      (fromSources file assignments).toOption = (fromSources file others).toOption := by
    rw [fromSources_of_holds holds, fromSources_of_holds holds, toOption_mapError,
      toOption_mapError]
    exact ofTree_perm (tidy_layered external) perm apart
  cases file with
  | none => exact ofHeld rfl
  | some text =>
    cases read : Yaml.read text with
    | ok external => exact ofHeld read
    | error cause => rw [fromSources_of_error read, fromSources_of_error read]

/-- Two settings that come from variables in either order. -/
theorem fromSources_perm_pair :
    let workers : Assignment := ⟨"PMOSOAP_CONFIG__EXECUTOR__WORKERS", "2"⟩
    let level : Assignment := ⟨"PMOSOAP_CONFIG__LOGGING__LEVEL", "debug"⟩
    ([workers, level].Perm [level, workers] ∧ [workers, level].Pairwise Assignment.Apart) ∧
      (fromSources none [workers, level]).toOption = some { workers := 2, level := "debug" } ∧
      (fromSources none [level, workers]).toOption = some { workers := 2, level := "debug" } := by
  intro workers level
  have perm : [workers, level].Perm [level, workers] := .swap level workers []
  have apart : [workers, level].Pairwise Assignment.Apart := by
    refine List.pairwise_pair.2 fun path found own foundToo => ?_
    have first : workers.path? = some [.text "executor", .text "workers"] := by decide +kernel
    have second : level.path? = some [.text "logging", .text "level"] := by decide +kernel
    obtain rfl := Option.some.inj (first.symm.trans found)
    obtain rfl := Option.some.inj (second.symm.trans foundToo)
    decide +kernel
  have outcome : (fromSources none [workers, level]).toOption =
      some { workers := 2, level := "debug" } := by decide +kernel
  exact ⟨⟨perm, apart⟩, outcome, (fromSources_perm none perm apart).symm.trans outcome⟩

end SoapDispatch.Config
