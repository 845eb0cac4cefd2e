import Mathlib.Data.List.Induction
import SoapDispatch.Proofs.LetterCase

/-!
# Trees of settings

What lowering keys, merging and overriding do to the node at a path. A tree is `Keyed` by a law of
keys if in each of its mappings that a path can reach the keys differ and obey the law; lowering
gives a tree whose keys are in lower case, and merging and overriding keep trees keyed.
-/

namespace SoapDispatch

open SoapDispatch.Yaml (Value)

/-- The entries of a mapping. -/
def Yaml.Value.entries? : Value → Option Config.Entries
  | .mapping entries => some entries
  | _ => none

namespace Config

/-! ## Entries -/

namespace Entries

/-- The keys, in their order. -/
def keys (entries : Entries) : List Value :=
  entries.map Prod.fst

/-- A key has a value exactly when it is there. -/
theorem get?_eq_none_iff {key : Value} {entries : Entries} :
    entries.get? key = none ↔ key ∉ entries.keys := by
  induction entries with
  | nil => simp [get?, keys]
  | cons entry rest inductionHypothesis =>
    obtain ⟨name, value⟩ := entry
    rw [get?, keys, List.map_cons, List.mem_cons, not_or]
    split
    · next same => simp [same]
    · next other =>
      exact inductionHypothesis.trans ⟨fun absent => ⟨Ne.symm other, absent⟩, And.right⟩

/-- A value that is found stands under its key. -/
theorem mem_of_get? {key value : Value} {entries : Entries}
    (found : entries.get? key = some value) : (key, value) ∈ entries := by
  induction entries with
  | nil => cases found
  | cons entry rest inductionHypothesis =>
    obtain ⟨name, old⟩ := entry
    rw [get?] at found
    split at found
    · next same =>
      cases found
      exact same ▸ List.mem_cons_self
    · exact List.mem_cons_of_mem _ (inductionHypothesis found)

/-- Where the keys differ, what stands under a key is found. -/
theorem get?_of_mem {key value : Value} {entries : Entries} (distinct : entries.keys.Nodup)
    (member : (key, value) ∈ entries) : entries.get? key = some value := by
  induction entries with
  | nil => exact absurd member List.not_mem_nil
  | cons entry rest inductionHypothesis =>
    obtain ⟨name, old⟩ := entry
    obtain ⟨fresh, others⟩ := List.nodup_cons.1 distinct
    rw [get?]
    rcases List.mem_cons.1 member with first | later
    · cases first
      rw [if_pos rfl]
    · have present : key ∈ rest.map Prod.fst := List.mem_map_of_mem later
      have other : name ≠ key := fun same => fresh (same ▸ present)
      rw [if_neg other, inductionHypothesis others later]

/-- What is put under a new key comes last. -/
theorem put_of_notMem {key : Value} {entries : Entries} (value : Value)
    (fresh : key ∉ entries.keys) : entries.put key value = entries ++ [(key, value)] := by
  induction entries with
  | nil => rfl
  | cons entry rest inductionHypothesis =>
    obtain ⟨name, old⟩ := entry
    rw [keys, List.map_cons, List.mem_cons, not_or] at fresh
    rw [put, if_neg (Ne.symm fresh.1), inductionHypothesis fresh.2, List.cons_append]

/-- Putting a value under a key adds the key behind the others, unless it is there. -/
theorem keys_put (key value : Value) (entries : Entries) :
    (entries.put key value).keys =
      if key ∈ entries.keys then entries.keys else entries.keys ++ [key] := by
  induction entries with
  | nil => rfl
  | cons entry rest inductionHypothesis =>
    obtain ⟨name, old⟩ := entry
    rw [put]
    by_cases same : name = key
    · simp [same, keys]
    · have keys_cons (value : Value) (entries : Entries) :
          keys ((name, value) :: entries) = name :: entries.keys := rfl
      rw [if_neg same, keys_cons, keys_cons, inductionHypothesis]
      by_cases present : key ∈ keys rest <;> simp [present, Ne.symm same]

/-- What stands under a key after putting is what was put or what stood there. -/
theorem mem_put {key value : Value} {entry : Value × Value} {entries : Entries}
    (member : entry ∈ entries.put key value) : entry = (key, value) ∨ entry ∈ entries := by
  induction entries with
  | nil => exact .inl (List.mem_singleton.1 member)
  | cons first rest inductionHypothesis =>
    obtain ⟨name, old⟩ := first
    rw [put] at member
    split at member
    · next same =>
      rcases List.mem_cons.1 member with rfl | later
      · exact .inl (by rw [same])
      · exact .inr (List.mem_cons_of_mem _ later)
    · rcases List.mem_cons.1 member with rfl | later
      · exact .inr List.mem_cons_self
      · exact (inductionHypothesis later).imp id (List.mem_cons_of_mem _)

/-- Putting keeps the keys apart. -/
theorem nodup_keys_put {entries : Entries} (key value : Value) (distinct : entries.keys.Nodup) :
    (entries.put key value).keys.Nodup := by
  rw [keys_put]
  split
  · exact distinct
  · next fresh =>
    rw [List.nodup_append]
    refine ⟨distinct, by simp, ?_⟩
    rintro name member other last rfl
    exact fresh (List.mem_singleton.1 last ▸ member)

end Entries

/-- A tree with entries is a mapping of them. -/
theorem eq_mapping_of_entries? {tree : Value} {entries : Entries}
    (shape : tree.entries? = some entries) : tree = .mapping entries := by
  cases tree with
  | mapping own => exact congrArg Value.mapping (Option.some.inj shape)
  | _ => cases shape

/-! ## Keyed trees -/

/-- Whether in each mapping that a path can reach the keys differ and obey a law. -/
inductive Keyed (law : Value → Prop) : Value → Prop where
  | mapping {entries : Entries} (distinct : entries.keys.Nodup)
      (lawful : ∀ key ∈ entries.keys, law key)
      (below : ∀ entry ∈ entries, Keyed law entry.2) : Keyed law (.mapping entries)
  | other {value : Value} (leaf : value.entries? = none) : Keyed law value

/-- A tree in which no mapping has a key twice. -/
abbrev Tidy : Value → Prop :=
  Keyed fun _ => True

/-- A tree whose keys are in lower case. -/
abbrev Lowered : Value → Prop :=
  Keyed fun key => lowerKey key = key

section Keyed

variable {law : Value → Prop}

theorem Keyed.distinct {entries : Entries} (keyed : Keyed law (.mapping entries)) :
    entries.keys.Nodup := by
  cases keyed with
  | mapping distinct => exact distinct
  | other leaf => cases leaf

theorem Keyed.lawful {entries : Entries} (keyed : Keyed law (.mapping entries)) :
    ∀ key ∈ entries.keys, law key := by
  cases keyed with
  | mapping _ lawful => exact lawful
  | other leaf => cases leaf

theorem Keyed.of_get? {entries : Entries} {key value : Value}
    (keyed : Keyed law (.mapping entries)) (found : entries.get? key = some value) :
    Keyed law value := by
  cases keyed with
  | mapping _ _ below => exact below _ (Entries.mem_of_get? found)
  | other leaf => cases leaf

/-- Putting a keyed tree under a lawful key keeps a mapping keyed. -/
theorem Keyed.put {entries : Entries} {key value : Value} (keyed : Keyed law (.mapping entries))
    (lawful : law key) (below : Keyed law value) :
    Keyed law (.mapping (entries.put key value)) := by
  cases keyed with
  | other leaf => cases leaf
  | mapping distinct laws belows =>
    refine .mapping (Entries.nodup_keys_put key value distinct) ?_ ?_
    · intro name member
      rw [Entries.keys_put] at member
      split at member
      · exact laws name member
      · rcases List.mem_append.1 member with old | last
        · exact laws name old
        · rw [List.mem_singleton.1 last]
          exact lawful
    · intro entry member
      rcases Entries.mem_put member with rfl | old
      · exact below
      · exact belows entry old

/-- The empty mapping is keyed. -/
theorem Keyed.empty : Keyed law (.mapping []) :=
  .mapping List.nodup_nil (fun _ member => absurd member List.not_mem_nil)
    fun _ member => absurd member List.not_mem_nil

theorem Keyed.mono {other : Value → Prop} {tree : Value} (keyed : Keyed law tree)
    (weaker : ∀ key, law key → other key) : Keyed other tree := by
  induction keyed with
  | mapping distinct lawful _ inductionHypothesis =>
    exact .mapping distinct (fun key member => weaker key (lawful key member)) inductionHypothesis
  | other leaf => exact .other leaf

end Keyed

/-! ## Lowering -/

/-- The value of the last entry whose key is a given one once it is lowered. -/
def Entries.lastLike? (key : Value) (entries : Entries) : Option Value :=
  (entries.reverse.find? fun entry => lowerKey entry.1 = key).map Prod.snd

/-- The node that a path of lowered keys leads to, keys being compared in lower case. Of two keys
that are the same then, the later counts. -/
def nodeLike? : List Value → Value → Option Value
  | [], tree => some tree
  | key :: rest, .mapping entries => (Entries.lastLike? key entries).bind (nodeLike? rest)
  | _ :: _, _ => none

/-- A lowered key stays as it is. -/
@[simp] theorem lowerKey_lowerKey (key : Value) : lowerKey (lowerKey key) = lowerKey key := by
  cases key with
  | text name => simp [lowerKey]
  | _ => rfl

/-- The last entry counts, or else those in front of it. -/
theorem Entries.lastLike?_concat (key : Value) (entries : Entries) (entry : Value × Value) :
    Entries.lastLike? key (entries ++ [entry]) =
      if lowerKey entry.1 = key then some entry.2 else Entries.lastLike? key entries := by
  rw [lastLike?, List.reverse_append, List.reverse_singleton, List.singleton_append,
    List.find?_cons]
  by_cases same : lowerKey entry.1 = key <;> simp [same, lastLike?]

/-- Entries are lowered one behind the other. -/
theorem lowerEntries_append (done first second : Entries) :
    lowerEntries done (first ++ second) = lowerEntries (lowerEntries done first) second := by
  induction first generalizing done with
  | nil => rfl
  | cons entry rest inductionHypothesis =>
    rw [List.cons_append, lowerEntries, lowerEntries, inductionHypothesis]

/-- Under a lowered key there is what stands under the last key like it. -/
theorem get?_lowerEntries (key : Value) (entries : Entries) :
    (lowerEntries [] entries).get? key = (Entries.lastLike? key entries).map lowerKeys := by
  induction entries using List.reverseRecOn with
  | nil => rfl
  | append_singleton entries entry inductionHypothesis =>
    rw [lowerEntries_append, Entries.lastLike?_concat, lowerEntries, lowerEntries]
    by_cases same : lowerKey entry.1 = key
    · rw [if_pos same, ← same, Entries.get?_put_self, Option.map_some]
    · rw [if_neg same, Entries.get?_put_of_ne (Ne.symm same), inductionHypothesis]

/-- The node at a path of a lowered tree is the lowered node that the path leads to. -/
theorem nodeAt?_lowerKeys (path : List Value) (tree : Value) :
    nodeAt? path (lowerKeys tree) = (nodeLike? path tree).map lowerKeys := by
  induction path generalizing tree with
  | nil => rfl
  | cons key rest inductionHypothesis =>
    cases tree with
    | mapping entries =>
      rw [lowerKeys, nodeAt?, nodeLike?, get?_lowerEntries]
      cases Entries.lastLike? key entries with
      | none => rfl
      | some value => exact inductionHypothesis value
    | _ => rfl

/-- Entries with keys in lower case that differ, and with nothing left to be lowered below them. -/
structure Entries.Settled (entries : Entries) : Prop where
  distinct : entries.keys.Nodup
  lower : ∀ key ∈ entries.keys, lowerKey key = key
  lowered : ∀ entry ∈ entries, Lowered entry.2
  kept : ∀ entry ∈ entries, lowerKeys entry.2 = entry.2

/-- No entries are settled. -/
theorem Entries.Settled.nil : Entries.Settled [] :=
  ⟨List.nodup_nil, by simp [Entries.keys], by simp, by simp⟩

/-- A mapping of settled entries is in lower case. -/
theorem Entries.Settled.mapping {entries : Entries} (settled : entries.Settled) :
    Lowered (.mapping entries) :=
  .mapping settled.distinct settled.lower settled.lowered

/-- A settled value that is put under a lowered key leaves entries settled. -/
theorem Entries.Settled.put {entries : Entries} (settled : entries.Settled) (key : Value)
    {value : Value} (lowered : Lowered value) (kept : lowerKeys value = value) :
    Entries.Settled (entries.put (lowerKey key) value) := by
  have keyed := settled.mapping.put (lowerKey_lowerKey key) lowered
  refine ⟨keyed.distinct, keyed.lawful, ?_, ?_⟩
  · intro entry member
    rcases Entries.mem_put member with rfl | old
    · exact lowered
    · exact settled.lowered entry old
  · intro entry member
    rcases Entries.mem_put member with rfl | old
    · exact kept
    · exact settled.kept entry old

/-- Lowering settled entries behind others, from which they differ, changes nothing. -/
theorem lowerEntries_of_settled {done entries : Entries}
    (distinct : (Entries.keys (done ++ entries)).Nodup) (settled : entries.Settled) :
    lowerEntries done entries = done ++ entries := by
  induction entries generalizing done with
  | nil => rw [lowerEntries, List.append_nil]
  | cons entry rest inductionHypothesis =>
    have fresh : entry.1 ∉ done.keys := by
      intro member
      rw [Entries.keys, List.map_append, List.nodup_append] at distinct
      exact distinct.2.2 _ member _ List.mem_cons_self rfl
    have others : Entries.Settled rest :=
      ⟨(List.nodup_cons.1 settled.distinct).2,
        fun key member => settled.lower key (List.mem_cons_of_mem _ member),
        fun entry member => settled.lowered entry (List.mem_cons_of_mem _ member),
        fun entry member => settled.kept entry (List.mem_cons_of_mem _ member)⟩
    have own : lowerKey entry.1 = entry.1 := settled.lower entry.1 List.mem_cons_self
    rw [lowerEntries, own, settled.kept entry List.mem_cons_self, Entries.put_of_notMem _ fresh,
      inductionHypothesis (by simpa using distinct) others, List.append_assoc,
      List.singleton_append]

mutual

/-- Lowering gives a tree whose keys are in lower case, and there is nothing left to be lowered. -/
theorem lowered_lowerKeys : ∀ tree : Value,
    Lowered (lowerKeys tree) ∧ lowerKeys (lowerKeys tree) = lowerKeys tree
  | .mapping entries => by
    have settled := settled_lowerEntries entries .nil
    have idle := @lowerEntries_of_settled [] _ settled.distinct settled
    rw [lowerKeys, lowerKeys]
    exact ⟨settled.mapping, congrArg Value.mapping idle⟩
  | .sequence items => by
    rw [lowerKeys, lowerKeys, lowerItems_lowerItems items]
    exact ⟨.other rfl, rfl⟩
  | .null | .bool _ | .int _ | .real _ | .text _ | .tagged _ _ => ⟨.other rfl, rfl⟩

theorem settled_lowerEntries : ∀ (entries : Entries) {done : Entries}, done.Settled →
    Entries.Settled (lowerEntries done entries)
  | [], _, settled => settled
  | (key, value) :: rest, _, settled => by
    obtain ⟨lowered, kept⟩ := lowered_lowerKeys value
    exact settled_lowerEntries rest (settled.put key lowered kept)

theorem lowerItems_lowerItems : ∀ items : List Value,
    lowerItems (lowerItems items) = lowerItems items
  | [] => rfl
  | item :: rest => by
    rw [lowerItems, lowerItems, (lowered_lowerKeys item).2, lowerItems_lowerItems rest]

end

/-- What is lowered has nothing left to be lowered. -/
@[simp] theorem lowerKeys_lowerKeys (tree : Value) :
    lowerKeys (lowerKeys tree) = lowerKeys tree :=
  (lowered_lowerKeys tree).2

/-- Where keys are in lower case and differ, the last key like a given one is the key itself. -/
theorem Entries.lastLike?_of_lower {entries : Entries} (distinct : entries.keys.Nodup)
    (lower : ∀ key ∈ entries.keys, lowerKey key = key) (key : Value) :
    Entries.lastLike? key entries = entries.get? key := by
  rw [lastLike?]
  cases found : entries.reverse.find? fun entry => lowerKey entry.1 = key with
  | none =>
    have absent : key ∉ entries.keys := by
      intro member
      obtain ⟨entry, listed, rfl⟩ := List.mem_map.1 member
      have other := List.find?_eq_none.1 found entry (List.mem_reverse.2 listed)
      simp [lower _ member] at other
    rw [get?_eq_none_iff.2 absent, Option.map_none]
  | some entry =>
    have listed : entry ∈ entries := List.mem_reverse.1 (List.mem_of_find?_eq_some found)
    have like : lowerKey entry.1 = key := by simpa using List.find?_some found
    have own : lowerKey entry.1 = entry.1 := lower entry.1 (List.mem_map_of_mem listed)
    rw [Option.map_some, ← like, own]
    exact (get?_of_mem distinct listed).symm

/-- In a tree whose keys are in lower case they are compared as they are. -/
theorem nodeLike?_of_lowered {path : List Value} {tree : Value} (lowered : Lowered tree) :
    nodeLike? path tree = nodeAt? path tree := by
  induction path generalizing tree with
  | nil => rfl
  | cons key rest inductionHypothesis =>
    cases tree with
    | mapping entries =>
      rw [nodeLike?, nodeAt?, Entries.lastLike?_of_lower lowered.distinct lowered.lawful]
      cases found : Entries.get? key entries with
      | none => rfl
      | some value => exact inductionHypothesis (lowered.of_get? found)
    | _ => rfl

/-! ## Merging -/

/-- A tree that is no mapping, or that is merged into none, takes the place of the other. -/
theorem merge_of_entries?_eq_none {tree added : Value}
    (leaf : tree.entries? = none ∨ added.entries? = none) : merge tree added = added := by
  unfold merge
  split
  · rcases leaf with none | none <;> cases none
  · rfl

/-- What stands under a key that is merged: what was added there, merged into what was there. -/
def merged (old : Option Value) (added : Value) : Value :=
  old.elim added fun old => merge old added

/-- Where the keys that are added differ, each is merged by itself. -/
theorem get?_mergeEntries {added : Entries} (distinct : added.keys.Nodup) (key : Value)
    (entries : Entries) : (mergeEntries entries added).get? key =
      match added.get? key with
      | some value => some (merged (entries.get? key) value)
      | none => entries.get? key := by
  induction added generalizing entries with
  | nil => rfl
  | cons entry rest inductionHypothesis =>
    obtain ⟨name, value⟩ := entry
    obtain ⟨fresh, others⟩ := List.nodup_cons.1 distinct
    have step : mergeEntries entries ((name, value) :: rest) =
        mergeEntries (entries.put name (merged (entries.get? name) value)) rest := by
      rw [mergeEntries, merged]
      cases entries.get? name <;> rfl
    rw [step, inductionHypothesis others, Entries.get?]
    by_cases same : name = key
    · subst same
      have none : Entries.get? name rest = none := Entries.get?_eq_none_iff.2 fresh
      rw [none, if_pos rfl, Entries.get?_put_self]
    · rw [if_neg same, Entries.get?_put_of_ne (Ne.symm same)]

/-- Where the added tree has a node, the merged tree has that node, merged into the one that was
there. -/
theorem nodeAt?_merge_of_some {path : List Value} {tree added node : Value} (tidy : Tidy added)
    (found : nodeAt? path added = some node) :
    nodeAt? path (merge tree added) = some (merged (nodeAt? path tree) node) := by
  induction path generalizing tree added with
  | nil =>
    cases found
    rfl
  | cons key rest inductionHypothesis =>
    cases added with
    | mapping entries =>
      obtain ⟨value, present, below⟩ := Option.bind_eq_some_iff.1 found
      cases tree with
      | mapping own =>
        rw [merge, nodeAt?, get?_mergeEntries tidy.distinct, present, nodeAt?]
        cases Entries.get? key own with
        | none => exact below
        | some old => exact inductionHypothesis (tidy.of_get? present) below
      | _ =>
        rw [merge_of_entries?_eq_none (.inl rfl), found]
        rfl
    | _ => cases found

/-- Whether mappings alone stand on the way along a path, as far as there is anything. -/
def Open (tree : Value) (path : List Value) : Prop :=
  ∀ front key back, path = front ++ key :: back →
    ∀ node, nodeAt? front tree = some node → node.entries?.isSome = true

/-- A path is open if it starts in a mapping, and goes on openly from there. -/
theorem open_cons_iff {tree key : Value} {rest : List Value} : Open tree (key :: rest) ↔
    ∃ entries, tree = .mapping entries ∧
      ∀ node, Entries.get? key entries = some node → Open node rest := by
  constructor
  · intro clear
    have first := clear [] key rest rfl tree rfl
    cases tree with
    | mapping entries =>
      refine ⟨entries, rfl, ?_⟩
      rintro node present front next back rfl below reached
      refine clear (key :: front) next back rfl below ?_
      rw [nodeAt?, present]
      exact reached
    | _ => cases first
  · rintro ⟨entries, rfl, clear⟩ front next back split below reached
    cases front with
    | nil =>
      cases reached
      rfl
    | cons first front =>
      obtain ⟨rfl, rfl⟩ := List.cons.inj split
      obtain ⟨node, present, later⟩ := Option.bind_eq_some_iff.1 reached
      exact clear node present front next back rfl below later

/-- The way to the tree itself is open. -/
theorem open_nil (tree : Value) : Open tree [] := by
  intro front key back split
  exact absurd split.symm (List.append_ne_nil_of_right_ne_nil front (List.cons_ne_nil key back))

/-- Where the added tree has no node, and no leaf on the way, the merged tree has the node that was
there. -/
theorem nodeAt?_merge_of_none {path : List Value} {tree added : Value} (tidy : Tidy added)
    (absent : nodeAt? path added = none) (clear : Open added path) :
    nodeAt? path (merge tree added) = nodeAt? path tree := by
  induction path generalizing tree added with
  | nil => cases absent
  | cons key rest inductionHypothesis =>
    obtain ⟨entries, rfl, onward⟩ := open_cons_iff.1 clear
    cases tree with
    | mapping own =>
      rw [merge, nodeAt?, get?_mergeEntries tidy.distinct, nodeAt?]
      cases present : Entries.get? key entries with
      | none => rfl
      | some value =>
        have below : nodeAt? rest value = none := by
          rw [nodeAt?, present] at absent
          exact absent
        cases Entries.get? key own with
        | none => exact below
        | some old =>
          exact inductionHypothesis (tidy.of_get? present) below (onward value present)
    | _ =>
      rw [merge_of_entries?_eq_none (.inl rfl), absent]
      rfl

/-- The way to a node is open. -/
theorem open_of_nodeAt? {path : List Value} {tree node : Value}
    (found : nodeAt? path tree = some node) : Open tree path := by
  induction path generalizing tree with
  | nil => exact open_nil tree
  | cons key rest inductionHypothesis =>
    cases tree with
    | mapping entries =>
      obtain ⟨value, present, below⟩ := Option.bind_eq_some_iff.1 found
      refine open_cons_iff.2 ⟨entries, rfl, fun other same => ?_⟩
      obtain rfl := Option.some.inj (present.symm.trans same)
      exact inductionHypothesis below
    | _ => cases found

/-- There is nothing behind a leaf. -/
theorem nodeAt?_of_not_open {path : List Value} {tree : Value} (blocked : ¬ Open tree path) :
    nodeAt? path tree = none := by
  by_contra present
  obtain ⟨node, found⟩ := Option.ne_none_iff_exists'.1 present
  exact blocked (open_of_nodeAt? found)

/-- A leaf on the way along a path in the added tree cuts off what was behind it. -/
theorem nodeAt?_merge_of_not_open {path : List Value} {tree added : Value} (tidy : Tidy added)
    (blocked : ¬ Open added path) : nodeAt? path (merge tree added) = none := by
  induction path generalizing tree added with
  | nil => exact absurd (open_nil added) blocked
  | cons key rest inductionHypothesis =>
    cases tree with
    | mapping own =>
      cases added with
      | mapping entries =>
        have onward : ¬ ∀ node, Entries.get? key entries = some node → Open node rest :=
          fun clear => blocked (open_cons_iff.2 ⟨entries, rfl, clear⟩)
        push Not at onward
        obtain ⟨value, present, cut⟩ := onward
        rw [merge, nodeAt?, get?_mergeEntries tidy.distinct, present]
        cases Entries.get? key own with
        | none => exact nodeAt?_of_not_open cut
        | some old => exact inductionHypothesis (tidy.of_get? present) cut
      | _ => rfl
    | _ =>
      rw [merge_of_entries?_eq_none (.inl rfl)]
      exact nodeAt?_of_not_open blocked

/-- Merging keeps trees keyed. -/
theorem Keyed.merge {law : Value → Prop} {tree added : Value} (keyed : Keyed law tree)
    (new : Keyed law added) : Keyed law (Config.merge tree added) := by
  induction new generalizing tree with
  | other leaf =>
    rw [merge_of_entries?_eq_none (.inr leaf)]
    exact .other leaf
  | @mapping added distinct lawful below inductionHypothesis =>
    cases tree with
    | mapping entries =>
      rw [Config.merge]
      -- The entries are put one after the other; `inductionHypothesis` is about each of them.
      clear distinct
      induction added generalizing entries with
      | nil => exact keyed
      | cons entry rest restHypothesis =>
        obtain ⟨own, others⟩ := List.forall_mem_cons.1 lawful
        obtain ⟨first, later⟩ := List.forall_mem_cons.1 inductionHypothesis
        have member := List.mem_cons_self (a := entry) (l := rest)
        rw [mergeEntries]
        refine restHypothesis others (fun _ listed => below _ (List.mem_cons_of_mem _ listed)) later
          _ (keyed.put own ?_)
        split
        · next old found => exact first (keyed.of_get? found)
        · exact below entry member
    | _ =>
      rw [merge_of_entries?_eq_none (.inl rfl)]
      exact .mapping distinct lawful below

/-! ## Overriding -/

section Override

variable {value : Value}

/-- An override below a mapping is put under the first key of its path. -/
theorem override_mapping (key : Value) (rest : List Value) (entries : Entries) :
    override value (key :: rest) (.mapping entries) =
      let below := override value rest ((Entries.get? key entries).getD (.mapping []))
      (.mapping (entries.put key below.1), below.2) := by
  cases rest <;> rfl

/-- An override whose path goes on from a leaf changes nothing. -/
theorem override_leaf {tree : Value} (leaf : tree.entries? = none) (key : Value)
    (rest : List Value) : override value (key :: rest) tree = (tree, false) := by
  cases tree with
  | mapping entries => cases leaf
  | _ => cases rest <;> rfl

/-- A path through nothing is open. -/
theorem open_empty (path : List Value) : Open (.mapping []) path := by
  cases path with
  | nil => exact open_nil _
  | cons key rest => exact open_cons_iff.2 ⟨[], rfl, fun _ found => nomatch found⟩

/-- Where a path is open, it is open from what stands under its first key, or is put there. -/
theorem open_getD {entries : Entries} {key : Value} {rest : List Value}
    (onward : ∀ node, Entries.get? key entries = some node → Open node rest) :
    Open ((Entries.get? key entries).getD (.mapping [])) rest := by
  cases found : Entries.get? key entries with
  | none => exact open_empty rest
  | some node => exact onward node found

/-- An override is made if the way along its path is open: the node at the path is the value. -/
theorem nodeAt?_override_self {path : List Value} {tree : Value} (clear : Open tree path) :
    nodeAt? path (override value path tree).1 = some value := by
  induction path generalizing tree with
  | nil => rfl
  | cons key rest inductionHypothesis =>
    obtain ⟨entries, rfl, onward⟩ := open_cons_iff.1 clear
    rw [override_mapping, nodeAt?, Entries.get?_put_self, Option.bind_some]
    exact inductionHypothesis (open_getD onward)

/-- An override leaves alone what is at a path that its own path neither leads to nor past. -/
theorem nodeAt?_override_of_apart {path other : List Value} {tree : Value}
    (short : ¬ path <+: other) (long : ¬ other <+: path) :
    nodeAt? other (override value path tree).1 = nodeAt? other tree := by
  induction path generalizing other tree with
  | nil => exact absurd List.nil_prefix short
  | cons key rest inductionHypothesis =>
    cases other with
    | nil => exact absurd List.nil_prefix long
    | cons first others =>
      cases tree with
      | mapping entries =>
        rw [override_mapping, nodeAt?, nodeAt?]
        by_cases same : first = key
        · subst same
          rw [List.cons_prefix_cons, not_and] at short long
          rw [Entries.get?_put_self, Option.bind_some, inductionHypothesis (short rfl) (long rfl)]
          cases Entries.get? first entries with
          | some node => rfl
          | none =>
            cases others with
            | nil => exact absurd List.nil_prefix (long rfl)
            | cons => rfl
        · rw [Entries.get?_put_of_ne same]
      | _ => rw [override_leaf rfl]

/-- An override leaves a path open unless its own path ends before it does. -/
theorem Open.override {path other : List Value} {tree : Value} (clear : Open tree other)
    (whole : path <+: other → path = other) : Open (Config.override value path tree).1 other := by
  induction path generalizing other tree with
  | nil => exact whole List.nil_prefix ▸ open_nil _
  | cons key rest inductionHypothesis =>
    cases other with
    | nil => exact open_nil _
    | cons first others =>
      obtain ⟨entries, rfl, onward⟩ := open_cons_iff.1 clear
      rw [override_mapping]
      refine open_cons_iff.2 ⟨_, rfl, fun node found => ?_⟩
      by_cases same : first = key
      · subst same
        rw [Entries.get?_put_self] at found
        obtain rfl := Option.some.inj found
        refine inductionHypothesis (open_getD onward) fun front => ?_
        exact (List.cons.inj (whole (List.cons_prefix_cons.2 ⟨rfl, front⟩))).2
      · rw [Entries.get?_put_of_ne same] at found
        exact onward node found

/-- An override along lawful keys keeps a tree keyed. -/
theorem Keyed.override {law : Value → Prop} {path : List Value} {tree : Value}
    (keyed : Keyed law tree) (lawful : ∀ key ∈ path, law key) (new : Keyed law value) :
    Keyed law (Config.override value path tree).1 := by
  induction path generalizing tree with
  | nil => exact new
  | cons key rest inductionHypothesis =>
    obtain ⟨own, others⟩ := List.forall_mem_cons.1 lawful
    cases tree with
    | mapping entries =>
      rw [override_mapping]
      refine keyed.put own (inductionHypothesis ?_ others)
      cases found : Entries.get? key entries with
      | none => exact .empty
      | some node => exact keyed.of_get? found
    | _ =>
      rw [override_leaf rfl]
      exact keyed

end Override

end Config

end SoapDispatch
