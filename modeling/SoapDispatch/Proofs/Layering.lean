import SoapDispatch.Proofs.DistinctKeys

/-!
# Layers of settings

Which of the layers a setting comes from. The value at the path of a setting is that of the last
variable with exactly this path, or else that of the file, or else the default, as long as neither a
file nor a variable puts anything but a mapping on the way.
-/

namespace SoapDispatch.Config

open SoapDispatch.Yaml (Value)

/-! ## What prevails -/

/-- What the last of the variables with a path overrides the node there with. -/
def lastReading? (path : List Value) (assignments : List Assignment) : Option Value :=
  (assignments.reverse.find? fun assignment => assignment.path? = some path).map Assignment.reading

/-- What a setting comes from: the last variable with its path, or else the file, or else the
defaults. Of two keys of the file that are the same in lower case, the later counts. -/
def prevailing? (file : Value) (assignments : List Assignment) (setting : Setting) : Option Value :=
  (lastReading? setting.path assignments).or <|
    ((nodeLike? setting.path file).map lowerKeys).or (nodeAt? setting.path defaultTree)

/-- A file that is empty, or that is a mapping whose sections of settings are mappings, or missing,
each. -/
inductive Sectioned : Value → Prop where
  | empty {file : Value} (nothing : file.untagged = .null) : Sectioned file
  | mapping {entries : Entries}
      (parts : ∀ (setting : Setting) (part : Value),
        nodeLike? [.text setting.part] (.mapping entries) = some part →
          part.entries?.isSome = true) :
      Sectioned (.mapping entries)

/-- Whether a variable has the path of a setting if it has one that leads to it or past it. -/
def Assignment.Whole (assignment : Assignment) : Prop :=
  ∀ path, assignment.path? = some path → ∀ setting : Setting,
    path <+: setting.path ∨ setting.path <+: path → path = setting.path

/-! ## Variables over the tree -/

/-- Variables that do not end on the way to a path, nor lead past it, leave it open, and the last
one with this path prevails there. -/
theorem nodeAt?_applyAssignments {path : List Value} {tree : Value} {assignments : List Assignment}
    (clear : Open tree path)
    (whole : ∀ assignment ∈ assignments, ∀ own, assignment.path? = some own →
      own <+: path ∨ path <+: own → own = path) :
    Open (applyAssignments tree assignments) path ∧
      nodeAt? path (applyAssignments tree assignments) =
        (lastReading? path assignments).or (nodeAt? path tree) := by
  -- From the end: the last variable decides if it has the path, and leaves the node alone if not.
  induction assignments using List.reverseRecOn with
  | nil => exact ⟨clear, rfl⟩
  | append_singleton earlier last inductionHypothesis =>
    obtain ⟨open', before⟩ := inductionHypothesis fun assignment member =>
      whole assignment (List.mem_append_left _ member)
    have lastWhole := whole last (List.mem_append_right _ (List.mem_singleton_self last))
    have step : applyAssignments tree (earlier ++ [last]) =
        Assignment.apply (applyAssignments tree earlier) last := by
      rw [applyAssignments, List.foldl_append]
      rfl
    have reading : lastReading? path (earlier ++ [last]) =
        if last.path? = some path then some last.reading else lastReading? path earlier := by
      rw [lastReading?, List.reverse_append, List.reverse_singleton, List.singleton_append,
        List.find?_cons]
      by_cases same : last.path? = some path <;> simp [same, lastReading?]
    rw [step, reading, Assignment.apply]
    cases found : last.path? with
    | none => simpa using ⟨open', before⟩
    | some own =>
      refine ⟨open'.override fun front => lastWhole own found (.inl front), ?_⟩
      by_cases same : own = path
      · subst same
        rw [if_pos rfl, nodeAt?_override_self open']
        rfl
      · have other : ¬ some own = some path := fun equal => same (Option.some.inj equal)
        have short : ¬ own <+: path := fun front => same (lastWhole own found (.inl front))
        have long : ¬ path <+: own := fun front => same (lastWhole own found (.inr front))
        rw [if_neg other, nodeAt?_override_of_apart short long, before]

/-! ## The file over the defaults -/

/-- The defaults have a leaf at the path of every setting. -/
theorem exists_default (setting : Setting) : ∃ leaf, nodeAt? setting.path defaultTree = some leaf ∧
    leaf.entries? = none ∧ lowerKeys leaf = leaf := by
  cases setting with
  | workers => exact ⟨.int 4, by decide +kernel, rfl, rfl⟩
  | threadName => exact ⟨.text "pmosoap-dispatch", by decide +kernel, rfl, rfl⟩
  | disableThreadSwitch => exact ⟨.bool false, by decide +kernel, rfl, rfl⟩
  | level => exact ⟨.text "info", by decide +kernel, rfl, rfl⟩

/-- The defaults are in lower case. -/
theorem lowered_defaultTree : Lowered defaultTree := by
  have own : lowerKeys defaultTree = defaultTree := by decide +kernel
  exact own ▸ (lowered_lowerKeys defaultTree).1

/-- A lowered file that holds something has mappings alone on the way to a setting. -/
theorem open_lowerKeys {file : Value} {setting : Setting} (sectioned : Sectioned file)
    (filled : file.untagged ≠ .null) : Open (lowerKeys file) setting.path := by
  cases sectioned with
  | empty nothing => exact absurd nothing filled
  | @mapping entries parts =>
    rw [lowerKeys]
    refine open_cons_iff.2 ⟨_, rfl, fun node found => open_cons_iff.2 ?_⟩
    rw [get?_lowerEntries] at found
    obtain ⟨part, like, rfl⟩ := Option.map_eq_some_iff.1 found
    have mapping : part.entries?.isSome = true := by
      refine parts setting part ?_
      rw [nodeLike?, like]
      rfl
    cases part with
    | mapping inner => exact ⟨_, rfl, fun _ _ => open_nil _⟩
    | _ => cases mapping

/-- Where a setting is in the layers of the defaults and a file, and what is there. -/
theorem nodeAt?_layered {file : Value} (sectioned : Sectioned file) (setting : Setting) :
    nodeAt? setting.path (layered file) =
      ((nodeLike? setting.path file).map lowerKeys).or (nodeAt? setting.path defaultTree) := by
  obtain ⟨leaf, default, atom, kept⟩ := exists_default setting
  rw [layered]
  by_cases nothing : file.untagged = .null
  · have none : nodeLike? setting.path file = none := by
      cases file with
      | mapping entries => cases nothing
      | _ => rfl
    rw [if_pos nothing, nodeAt?_lowerKeys, nodeLike?_of_lowered lowered_defaultTree, none, default]
    exact congrArg some kept
  · have lowered : Lowered (merge defaultTree (lowerKeys file)) :=
      lowered_defaultTree.merge (lowered_lowerKeys file).1
    have tidy : Tidy (lowerKeys file) := (lowered_lowerKeys file).1.mono fun _ _ => trivial
    have own := nodeAt?_lowerKeys setting.path file
    rw [if_neg nothing, nodeAt?_lowerKeys, nodeLike?_of_lowered lowered]
    cases found : nodeLike? setting.path file with
    | some node =>
      rw [found] at own
      rw [nodeAt?_merge_of_some tidy own, default, Option.map_some, merged, Option.elim_some,
        merge_of_entries?_eq_none (.inl atom), lowerKeys_lowerKeys]
      rfl
    | none =>
      rw [found] at own
      rw [nodeAt?_merge_of_none tidy own (open_lowerKeys sectioned nothing), default]
      exact congrArg some kept

/-! ## Every setting from its layer -/

/-- There is always something that a setting comes from. -/
theorem exists_prevailing (file : Value) (assignments : List Assignment) (setting : Setting) :
    ∃ node, prevailing? file assignments setting = some node := by
  obtain ⟨leaf, default, _⟩ := exists_default setting
  rw [prevailing?, default]
  cases lastReading? setting.path assignments with
  | some node => exact ⟨node, rfl⟩
  | none =>
    cases nodeLike? setting.path file with
    | some node => exact ⟨lowerKeys node, rfl⟩
    | none => exact ⟨leaf, rfl⟩

/-- What prevails for a setting stands at its path in the tree that the layers make. -/
theorem nodeAt?_layers {file : Value} {assignments : List Assignment} (sectioned : Sectioned file)
    (whole : ∀ assignment ∈ assignments, assignment.Whole) (setting : Setting) :
    nodeAt? setting.path (applyAssignments (layered file) assignments) =
      prevailing? file assignments setting := by
  have base := nodeAt?_layered sectioned setting
  obtain ⟨node, there⟩ := exists_prevailing file [] setting
  have clear : Open (layered file) setting.path := open_of_nodeAt? (base.trans there)
  have apart : ∀ assignment ∈ assignments, ∀ own, assignment.path? = some own →
      own <+: setting.path ∨ setting.path <+: own → own = setting.path :=
    fun assignment member own found => whole assignment member own found setting
  rw [(nodeAt?_applyAssignments clear apart).2, base, prevailing?]

/-- Settings come from the last variable with their path, or else from the file, or else from the
defaults, and from nothing else. A leaf of a tree that is merged into another prevails; a leaf of
the other is kept where nothing is added at its path, nor a leaf on the way to it. -/
theorem layers_prevail :
    (∀ (file : Option String) (external : Value) (assignments : List Assignment),
      Holds file external → Sectioned external →
      (∀ assignment ∈ assignments, assignment.Whole) →
      ∃ tree, treeOf file assignments = .ok tree ∧
        (∀ setting : Setting,
          nodeAt? setting.path tree = prevailing? external assignments setting) ∧
        (∀ settings, fromSources file assignments = .ok settings →
          settings.ReadFrom (prevailing? external assignments) ∧
            ∀ other : Settings, other.ReadFrom (prevailing? external assignments) →
              other = settings) ∧
        (Settings.PlainTree tree → ∀ settings : Settings,
          settings.ReadFrom (prevailing? external assignments) →
            fromSources file assignments = .ok settings)) ∧
    ∀ own added : Value, Tidy added → ∀ (path : List Value) (leaf : Value), leaf.entries? = none →
      (nodeAt? path added = some leaf → nodeAt? path (merge own added) = some leaf) ∧
      (nodeAt? path own = some leaf → nodeAt? path added = none →
        (nodeAt? path (merge own added) = some leaf ↔ Open added path)) := by
  refine ⟨?_, ?_⟩
  · intro file external assignments holds sectioned whole
    have made := treeOf_of_holds holds assignments
    have prevails := nodeAt?_layers sectioned whole
    have tidy : Tidy (applyAssignments (layered external) assignments) :=
      tidy_applyAssignments (tidy_layered external) assignments
    have nodes : (fun setting : Setting => nodeAt? setting.path
        (applyAssignments (layered external) assignments)) = prevailing? external assignments :=
      funext prevails
    refine ⟨_, made, prevails, ?_, ?_⟩
    · intro settings result
      rw [fromSources_of_holds holds] at result
      have there (setting : Setting) : ∃ node, nodeAt? setting.path
          (applyAssignments (layered external) assignments) = some node := by
        rw [prevails setting]
        exact exists_prevailing external assignments setting
      have reads := nodes ▸ Settings.readFrom_of_ofTree tidy there (eq_ok_of_mapError result)
      exact ⟨reads, fun other readsToo => reads.unique readsToo⟩
    · intro plain settings reads
      rw [fromSources_of_holds holds, Settings.ofTree_of_readFrom tidy plain (nodes.symm ▸ reads)]
      rfl
  · intro own added tidy path leaf atom
    constructor
    · intro found
      rw [nodeAt?_merge_of_some tidy found, merged]
      cases nodeAt? path own with
      | none => rfl
      | some old => exact congrArg some (merge_of_entries?_eq_none (.inr atom))
    · intro found absent
      constructor
      · intro kept
        by_contra blocked
        cases kept.symm.trans (nodeAt?_merge_of_not_open tidy blocked)
      · intro clear
        rw [nodeAt?_merge_of_none tidy absent clear, found]

/-- A pool that a file describes in capitals, and a variable resizes. -/
theorem layers_prevail_pool :
    let text := "Executor: \x7bWorkers: 8, thread_name: a\x7d"
    let file : Value := .mapping [(.text "Executor",
      .mapping [(.text "Workers", .int 8), (.text "thread_name", .text "a")])]
    let assignments : List Assignment := [⟨"PMOSOAP_CONFIG__EXECUTOR__Workers", "2"⟩, ⟨"HOME", "/"⟩]
    let added : Value := .mapping [(.text "executor", .null)]
    (Holds (some text) file ∧ Sectioned file ∧ ∀ assignment ∈ assignments, assignment.Whole) ∧
      (∃ tree, treeOf (some text) assignments = .ok tree ∧
        nodeAt? Setting.workers.path tree = some (.int 2) ∧
        nodeAt? Setting.threadName.path tree = some (.text "a") ∧
        nodeAt? Setting.level.path tree = some (.text "info")) ∧
      Tidy added ∧ nodeAt? [.text "executor"] (merge defaultTree added) = some .null := by
  intro text file assignments added
  have holds : Holds (some text) file := by
    show Yaml.read text = .ok file
    decide +kernel
  have sectioned : Sectioned file := by
    refine .mapping fun setting part found => ?_
    have all : (nodeLike? [.text setting.part] file).all (·.entries?.isSome) = true := by
      cases setting <;> decide +kernel
    rw [found] at all
    exact all
  have whole : ∀ assignment ∈ assignments, assignment.Whole := by
    intro assignment member path found setting
    rcases List.mem_cons.1 member with rfl | member
    · have own : Assignment.path? ⟨"PMOSOAP_CONFIG__EXECUTOR__Workers", "2"⟩ =
          some Setting.workers.path := by decide +kernel
      obtain rfl := Option.some.inj (own.symm.trans found)
      cases setting <;> decide +kernel
    · obtain rfl := List.mem_singleton.1 member
      have none : Assignment.path? ⟨"HOME", "/"⟩ = none := by decide +kernel
      cases none.symm.trans found
  have tidy : Tidy added := by
    refine .mapping (List.nodup_singleton _) (fun _ _ => trivial) fun entry member => ?_
    obtain rfl := List.mem_singleton.1 member
    exact .other rfl
  obtain ⟨tree, made, prevails, _⟩ :=
    layers_prevail.1 (some text) file assignments holds sectioned whole
  refine ⟨⟨holds, sectioned, whole⟩, ⟨tree, made, ?_, ?_, ?_⟩, tidy, ?_⟩
  · rw [prevails]
    decide +kernel
  · rw [prevails]
    decide +kernel
  · rw [prevails]
    decide +kernel
  · have there : nodeAt? [.text "executor"] added = some .null := by decide +kernel
    exact (layers_prevail.2 defaultTree added tidy _ .null rfl).1 there

end SoapDispatch.Config
