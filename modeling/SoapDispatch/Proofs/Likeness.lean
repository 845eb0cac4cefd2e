import SoapDispatch.Proofs.DistinctKeys

/-!
# Trees that are read alike

Trees that differ only in the order of their entries, and in what is never looked at, are read as
the same settings, or from neither are settings read. Overrides keep such trees alike, so what is
not looked at stays out of sight whatever is put into the tree later.
-/

namespace SoapDispatch.Config

open SoapDispatch.Yaml (Value)
open SoapDispatch.Settings (nameOf? Legible keysNamed named)

/-! ## Alike trees -/

/-- What is seen from below the key for a name. -/
def below (seen : List String → Prop) (name : String) : List String → Prop :=
  fun rest => seen (name :: rest)

/-- Whether two trees cannot be told apart by what stands at the paths that are seen. -/
inductive Alike : (List String → Prop) → Value → Value → Prop where
  | same {seen : List String → Prop} (value : Value) : Alike seen value value
  | unseen {seen : List String → Prop} {value other : Value} (nothing : ∀ path, ¬ seen path) :
      Alike seen value other
  | sequence {seen : List String → Prop} {items others : List Value} :
      Alike seen (.sequence items) (.sequence others)
  /-- Mappings with the same keys for every name on a path that is seen. -/
  | mapping {seen : List String → Prop} {entries others : Entries}
      (legible : Legible entries ↔ Legible others)
      (heard : ∀ name rest, seen (name :: rest) →
        (keysNamed name entries).Perm (keysNamed name others))
      (inside : ∀ key name, nameOf? key = some name → ∀ value other,
        entries.get? key = some value → others.get? key = some other →
          Alike (below seen name) value other) :
      Alike seen (.mapping entries) (.mapping others)

variable {seen : List String → Prop}

/-- Whether two mappings have the same keys for every name on a path that is seen, with alike values
under them. -/
structure AlikeEntries (seen : List String → Prop) (entries others : Entries) : Prop where
  legible : Legible entries ↔ Legible others
  heard : ∀ name rest, seen (name :: rest) →
    (keysNamed name entries).Perm (keysNamed name others)
  inside : ∀ key name, nameOf? key = some name → ∀ value other,
    entries.get? key = some value → others.get? key = some other →
      Alike (below seen name) value other

/-- Mappings with alike entries are alike. -/
theorem AlikeEntries.alike {entries others : Entries} (alike : AlikeEntries seen entries others) :
    Alike seen (.mapping entries) (.mapping others) :=
  .mapping alike.legible alike.heard alike.inside

/-- Entries are like themselves. -/
theorem AlikeEntries.refl (entries : Entries) : AlikeEntries seen entries entries where
  legible := Iff.rfl
  heard _ _ _ := List.Perm.refl _
  inside _ _ _ value _ found again :=
    Option.some.inj (found.symm.trans again) ▸ .same value

/-! ## Overriding alike trees -/

/-- A key that is a text does not change whether all keys stand for names. -/
theorem legible_put (name : String) (value : Value) (entries : Entries) :
    Legible (entries.put (.text name) value) ↔ Legible entries := by
  rw [Legible, Legible, Entries.keys_put]
  split
  · exact Iff.rfl
  · simp [or_imp, forall_and]

/-- The keys that stand for a name after putting a value under it. -/
theorem keysNamed_put (name own : String) (value : Value) (entries : Entries) :
    keysNamed name (entries.put (.text own) value) =
      if own = name ∧ Value.text own ∉ entries.keys then keysNamed name entries ++ [.text own]
      else keysNamed name entries := by
  rw [keysNamed, Entries.keys_put]
  by_cases present : Value.text own ∈ entries.keys
  · simp [present, keysNamed]
  · rw [if_neg present, List.filter_append, keysNamed]
    by_cases same : own = name
    · subst same
      simp [present]
    · simp [same]

/-- A text is a key exactly when it is one of those that stand for it. -/
theorem mem_keysNamed {name : String} {entries : Entries} :
    Value.text name ∈ keysNamed name entries ↔ Value.text name ∈ entries.keys := by
  simp [keysNamed]

namespace AlikeEntries

variable {entries others : Entries} {name : String}

/-- A text on a path that is seen is a key in both of two alike mappings or in neither. -/
theorem mem_keys_iff {rest : List String} (alike : AlikeEntries seen entries others)
    (path : seen (name :: rest)) :
    Value.text name ∈ entries.keys ↔ Value.text name ∈ others.keys := by
  rw [← mem_keysNamed, ← mem_keysNamed]
  exact (alike.heard name rest path).mem_iff

/-- What stands under a name in alike mappings, or is put there for an override, is alike. -/
theorem getD (alike : AlikeEntries seen entries others) (name : String) :
    Alike (below seen name) ((entries.get? (.text name)).getD (.mapping []))
      ((others.get? (.text name)).getD (.mapping [])) := by
  by_cases looked : ∃ rest, seen (name :: rest)
  · obtain ⟨rest, path⟩ := looked
    have both := alike.mem_keys_iff path
    cases first : entries.get? (.text name) with
    | none =>
      have absent := Entries.get?_eq_none_iff.1 first
      rw [Entries.get?_eq_none_iff.2 fun member => absent (both.2 member)]
      exact .same _
    | some value =>
      cases second : others.get? (.text name) with
      | none =>
        have absent := Entries.get?_eq_none_iff.1 second
        have none := Entries.get?_eq_none_iff.2 fun member => absent (both.1 member)
        cases first.symm.trans none
      | some other => exact alike.inside _ name rfl value other first second
  · exact .unseen fun rest path => looked ⟨rest, path⟩

/-- Putting alike values under the same name keeps mappings alike. -/
theorem put {value other : Value} (alike : AlikeEntries seen entries others)
    (inner : Alike (below seen name) value other) :
    AlikeEntries seen (entries.put (.text name) value) (others.put (.text name) other) where
  legible := (legible_put ..).trans (alike.legible.trans (legible_put ..).symm)
  heard own rest path := by
    rw [keysNamed_put, keysNamed_put]
    by_cases same : name = own
    · subst same
      rw [if_congr (and_congr_right fun _ => not_congr (alike.mem_keys_iff path)) rfl rfl]
      split
      · exact (alike.heard name rest path).append_right _
      · exact alike.heard name rest path
    · rw [if_neg fun both => same both.1, if_neg fun both => same both.1]
      exact alike.heard own rest path
  inside key own named first second found again := by
    by_cases same : key = .text name
    · subst same
      cases named
      rw [Entries.get?_put_self] at found again
      exact Option.some.inj found ▸ Option.some.inj again ▸ inner
    · rw [Entries.get?_put_of_ne same] at found again
      exact alike.inside key own named first second found again

end AlikeEntries

/-- Overrides along the same path by values that are alike below it keep trees alike. -/
theorem Alike.override {path : List String} {tree other value new : Value}
    (alike : Alike seen tree other) (values : Alike (fun rest => seen (path ++ rest)) value new) :
    Alike seen (Config.override value (path.map .text) tree).1
      (Config.override new (path.map .text) other).1 := by
  induction path generalizing seen tree other with
  | nil => exact values
  | cons name rest inductionHypothesis =>
    rw [List.map_cons]
    cases alike with
    | same =>
      -- Even of one tree two arise, for the values may differ.
      cases tree with
      | mapping entries =>
        rw [override_mapping, override_mapping]
        exact ((AlikeEntries.refl entries).put (inductionHypothesis (.same _) values)).alike
      | _ =>
        rw [override_leaf rfl, override_leaf rfl]
        exact .same _
    | unseen nothing => exact .unseen nothing
    | sequence =>
      rw [override_leaf rfl, override_leaf rfl]
      exact .sequence
    | mapping legible heard inside =>
      have entries : AlikeEntries seen _ _ := ⟨legible, heard, inside⟩
      rw [override_mapping, override_mapping]
      exact (entries.put (inductionHypothesis (entries.getD name) values)).alike

/-- The path of a variable is one of texts. -/
theorem Assignment.exists_names {assignment : Assignment} {path : List Value}
    (found : assignment.path? = some path) : ∃ names : List String, path = names.map .text := by
  obtain ⟨rest, _, rfl⟩ := Option.map_eq_some_iff.1 found
  refine ⟨(cutAtDouble rest).map fun part => Text.lowercase (String.ofList part), ?_⟩
  rw [List.map_map]
  rfl

/-- Whether two assignments are to the same path, of values that are alike from there on. -/
def Assignment.Alike (seen : List String → Prop) (assignment other : Assignment) : Prop :=
  assignment.path? = other.path? ∧
    ∀ names : List String, assignment.path? = some (names.map .text) →
      Config.Alike (fun rest => seen (names ++ rest)) assignment.reading other.reading

/-- An assignment is like itself. -/
theorem Assignment.Alike.refl (assignment : Assignment) : assignment.Alike seen assignment :=
  ⟨rfl, fun _ _ => .same _⟩

/-- Alike assignments, in the same order, keep trees alike. -/
theorem Alike.applyAssignments {tree other : Value} {assignments others : List Assignment}
    (alike : Alike seen tree other)
    (each : List.Forall₂ (Assignment.Alike seen) assignments others) :
    Alike seen (Config.applyAssignments tree assignments)
      (Config.applyAssignments other others) := by
  induction each generalizing tree other with
  | nil => exact alike
  | @cons assignment own rest _ first _ inductionHypothesis =>
    refine inductionHypothesis ?_
    obtain ⟨same, values⟩ := first
    unfold Assignment.apply
    rw [← same]
    cases found : assignment.path? with
    | none => exact alike
    | some path =>
      obtain ⟨names, rfl⟩ := Assignment.exists_names found
      exact alike.override (values names found)

end SoapDispatch.Config

/-! ## Reading alike trees -/

namespace SoapDispatch

/-- Whether two results are related values, or neither of them is a value. -/
def Both {ε α β : Type} (related : α → β → Prop) : Except ε α → Except ε β → Prop
  | .ok value, .ok other => related value other
  | .error _, .error _ => True
  | _, _ => False

namespace Both

variable {ε α β γ δ : Type} {related : α → β → Prop} {result : Except ε α} {other : Except ε β}

/-- Steps that go on from related values lead to related results. -/
theorem bind {after : γ → δ → Prop} {next : α → Except ε γ} {go : β → Except ε δ}
    (first : Both related result other)
    (second : ∀ value own, related value own → Both after (next value) (go own)) :
    Both after (result >>= next) (other >>= go) := by
  cases result with
  | ok value =>
    cases other with
    | ok own => exact second value own first
    | error cause => exact first.elim
  | error cause =>
    cases other with
    | ok own => exact first.elim
    | error reason => exact trivial

/-- A result is related to itself if its values are. -/
theorem refl {related : α → α → Prop} (all : ∀ value, related value value)
    (result : Except ε α) : Both related result result := by
  cases result with
  | ok value => exact all value
  | error cause => exact trivial

/-- Results of which both or neither is one value have the same outcome. -/
theorem toOption_eq {result other : Except ε α} (both : Both Eq result other) :
    result.toOption = other.toOption := by
  cases result with
  | ok value =>
    cases other with
    | ok own => exact congrArg some both
    | error cause => exact both.elim
  | error cause =>
    cases other with
    | ok own => exact both.elim
    | error reason => rfl

end Both

/-- Other words for an error leave the outcome alone. -/
theorem toOption_mapError {ε ε' α : Type} (change : ε → ε') (result : Except ε α) :
    (result.mapError change).toOption = result.toOption := by
  cases result <;> rfl

namespace Settings

open SoapDispatch.Yaml (Value)
open SoapDispatch.Config (Alike Tidy below)

variable {seen : List String → Prop}

/-- Whether two values are the same, or alike trees in which no mapping has a key twice. -/
def Like (seen : List String → Prop) (value other : Value) : Prop :=
  value = other ∨ (Alike seen value other ∧ Tidy value ∧ Tidy other)

/-- Whether the same is found in two sections, under every name on a path that is seen. -/
def FoundAlike (seen : List String → Prop) (entries others : List (String × Value)) : Prop :=
  ∀ name rest, seen (name :: rest) →
    Both (Option.Rel (Like (below seen name))) ( entry? name entries)
      ( entry? name others)

/-- A value is like itself. -/
theorem like_refl (value : Value) : Like seen value value :=
  .inl rfl

/-- Under a name on a path that is seen, like values are found in alike mappings. -/
theorem found_like {entries others : Config.Entries} {name : String} {rest : List String}
    (alike : Config.AlikeEntries seen entries others) (tidy : Tidy (.mapping entries))
    (tidyToo : Tidy (.mapping others)) (path : seen (name :: rest)) :
    Both (Option.Rel (Like (below seen name))) ( entry? name (named entries))
      ( entry? name (named others)) := by
  have same := alike.heard name rest path
  rw [found_named tidy.distinct, found_named tidyToo.distinct]
  rcases listed : keysNamed name entries with _ | ⟨key, _ | ⟨second, more⟩⟩ <;>
    rw [listed] at same
  · rw [List.nil_perm.1 same]
    exact .none
  · have single : keysNamed name others = [key] := (List.singleton_perm.1 same).symm
    rw [single]
    have member : key ∈ keysNamed name entries := listed ▸ List.mem_singleton_self key
    have memberToo : key ∈ keysNamed name others := single ▸ List.mem_singleton_self key
    obtain ⟨present, stands⟩ := List.mem_filter.1 member
    obtain ⟨value, found⟩ := Option.ne_none_iff_exists'.1 fun none =>
      Config.Entries.get?_eq_none_iff.1 none present
    obtain ⟨other, foundToo⟩ := Option.ne_none_iff_exists'.1 fun none =>
      Config.Entries.get?_eq_none_iff.1 none (List.mem_filter.1 memberToo).1
    show Option.Rel _ (Config.Entries.get? key entries) (Config.Entries.get? key others)
    rw [found, foundToo]
    exact .some (.inr ⟨alike.inside key name (of_decide_eq_true stands) value other found foundToo,
      tidy.of_get? found, tidyToo.of_get? foundToo⟩)
  · rcases listedToo : keysNamed name others with _ | ⟨first, _ | ⟨next, last⟩⟩ <;>
      rw [listedToo] at same
    · exact absurd same.length_eq (by simp)
    · exact absurd same.length_eq (by simp)
    · exact trivial

/-- Like values that are looked into are read as sections in which the same is found. -/
theorem sectionEntries_like {value other : Value} {path : List String} (name : String)
    (like : Like seen value other) (looked : seen path) :
    Both (FoundAlike seen) (sectionEntries name value) (sectionEntries name other) := by
  have refl (value : Value) :
      Both (FoundAlike seen) (sectionEntries name value) (sectionEntries name value) := by
    refine .refl (fun entries own rest _ => .refl (fun found => ?_) _) _
    cases found with
    | none => exact .none
    | some node => exact .some (like_refl node)
  rcases like with rfl | ⟨alike, tidy, tidyToo⟩
  · exact refl value
  · cases alike with
    | same => exact refl value
    | unseen nothing => exact absurd looked (nothing path)
    | sequence => exact trivial
    | @mapping _ entries others legible heard inside =>
      rw [sectionEntries_mapping, sectionEntries_mapping, if_congr legible rfl rfl]
      split
      · exact fun own rest => found_like ⟨legible, heard, inside⟩ tidy tidyToo
      · exact trivial

/-- Under a name on a path that is seen, sections in which the same is found are found in others. -/
theorem subsection_like {sections others : List (String × Value)} {name : String}
    {path : List String} (like : FoundAlike seen sections others) (looked : seen (name :: path)) :
    Both (FoundAlike (below seen name)) (subsection name sections) (subsection name others) := by
  refine (like name path looked).bind fun found other same => ?_
  cases same with
  | none => exact fun _ _ _ => .none
  | some inner => exact sectionEntries_like name inner looked

/-- A setting that is seen has the same value in sections in which the same is found. -/
theorem setting_like {α : Type} {read? : Value → Option α} (default : α) {name : String}
    {entries others : List (String × Value)} (atoms : ∀ items, read? (.sequence items) = none)
    (leaves : ∀ inner, read? (.mapping inner) = none) (like : FoundAlike seen entries others)
    (looked : seen [name]) :
    Both Eq (setting read? default name entries) (setting read? default name others) := by
  refine (like name [] looked).bind fun found other same => ?_
  cases same with
  | none => exact rfl
  | @some value node inner =>
    have read : read? value.untagged = read? node.untagged := by
      rcases inner with rfl | ⟨alike, _⟩
      · rfl
      · cases alike with
        | same => rfl
        | unseen nothing => exact absurd looked (nothing [])
        | sequence => exact (atoms _).trans (atoms _).symm
        | mapping => exact (leaves _).trans (leaves _).symm
    dsimp only
    rw [read]
    exact .refl (fun _ => rfl) _

/-- Whether a path leads to a setting. -/
def Seen (path : List String) : Prop :=
  ∃ setting : Setting, path = [setting.part, setting.key]

/-- From alike trees the same settings are read, or none. -/
theorem ofTree_like {tree other : Value} (alike : Alike Seen tree other) (tidy : Tidy tree)
    (tidyToo : Tidy other) : (ofTree tree).toOption = (ofTree other).toOption := by
  have like : Like Seen tree other := .inr ⟨alike, tidy, tidyToo⟩
  have ofWorkers : Seen ["executor", "workers"] := ⟨.workers, rfl⟩
  have ofName : Seen ["executor", "thread_name"] := ⟨.threadName, rfl⟩
  have ofSwitch : Seen ["dispatch", "disable_thread_switch"] := ⟨.disableThreadSwitch, rfl⟩
  have ofLevel : Seen ["logging", "level"] := ⟨.level, rfl⟩
  refine Both.toOption_eq ?_
  refine (sectionEntries_like "" like ofWorkers).bind fun sections _ found => ?_
  refine (subsection_like found ofWorkers).bind fun executor _ first => ?_
  refine (subsection_like found ofSwitch).bind fun dispatch _ second => ?_
  refine (subsection_like found ofLevel).bind fun logging _ third => ?_
  refine (setting_like _ (fun _ => rfl) (fun _ => rfl) first ofWorkers).bind ?_
  rintro workers _ rfl
  refine (setting_like _ (fun _ => rfl) (fun _ => rfl) first ofName).bind ?_
  rintro threadName _ rfl
  refine (setting_like _ (fun _ => rfl) (fun _ => rfl) second ofSwitch).bind ?_
  rintro disabled _ rfl
  refine (setting_like _ (fun _ => rfl) (fun _ => rfl) third ofLevel).bind ?_
  rintro level _ rfl
  exact rfl

end Settings

end SoapDispatch
