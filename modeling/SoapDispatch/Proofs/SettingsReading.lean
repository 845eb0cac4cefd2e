import Mathlib.Data.List.Nodup
import SoapDispatch.Config.Sources
import SoapDispatch.Proofs.Reachable
import SoapDispatch.Proofs.SettingsTrees

/-!
# Reading settings

What reading a tree of settings finds. A setting is at a path of two keys, the section and its own;
each of the settings is read from the node at its path and from nothing else.
-/

namespace SoapDispatch

open SoapDispatch.Yaml (Value)

namespace Settings

/-! ## Names of keys -/

/-- The name that a key stands for. -/
def nameOf? (key : Value) : Option String :=
  text? key.untagged

/-- A key that is a text stands for it. -/
@[simp] theorem nameOf?_text (name : String) : nameOf? (.text name) = some name :=
  rfl

/-- Whether all keys stand for names. -/
def Legible (entries : Config.Entries) : Prop :=
  ∀ key ∈ entries.keys, (nameOf? key).isSome = true

instance (entries : Config.Entries) : Decidable (Legible entries) :=
  inferInstanceAs (Decidable (∀ key ∈ entries.keys, _))

/-- The keys that stand for a name. -/
def keysNamed (name : String) (entries : Config.Entries) : List Value :=
  entries.keys.filter fun key => nameOf? key = some name

/-- The entries whose keys stand for names, by these names. -/
def named (entries : Config.Entries) : List (String × Value) :=
  entries.filterMap fun entry => (nameOf? entry.1).map (·, entry.2)

/-- A mapping is read as a section if all its keys stand for names. -/
theorem sectionEntries_mapping (name : String) (entries : Config.Entries) :
    sectionEntries name (.mapping entries) =
      if Legible entries then .ok (named entries) else .error (.malformedSection name) := by
  have step (key value : Value) (rest : Config.Entries) :
      sectionEntries name (.mapping ((key, value) :: rest)) =
        (nameOf? key).elim (.error (.malformedSection name)) fun own =>
          (sectionEntries name (.mapping rest)).map ((own, value) :: ·) := by
    simp only [sectionEntries, Value.untagged, List.mapM_cons, nameOf?]
    cases key.untagged <;> rfl
  induction entries with
  | nil => rfl
  | cons entry rest inductionHypothesis =>
    obtain ⟨key, value⟩ := entry
    rw [step, inductionHypothesis]
    cases own : nameOf? key with
    | none => simp [Legible, Config.Entries.keys, own]
    | some found =>
      have legible_cons : Legible ((key, value) :: rest) ↔ Legible rest := by
        simp [Legible, Config.Entries.keys, own]
      have named_cons : named ((key, value) :: rest) = (found, value) :: named rest := by
        simp [named, own]
      rw [if_congr legible_cons rfl rfl, named_cons]
      by_cases legible : Legible rest
      · rw [if_pos legible, if_pos legible]
        rfl
      · rw [if_neg legible, if_neg legible]
        rfl

/-- What is found under a name is what stands under the one key that stands for it. -/
theorem found_named {entries : Config.Entries} (distinct : entries.keys.Nodup) (name : String) :
    entry? name (named entries) =
      match keysNamed name entries with
      | [] => .ok none
      | [key] => .ok (entries.get? key)
      | _ => .error (.repeatedKey name) := by
  have found : (named entries).filter (fun entry => entry.1 = name) =
      (entries.filter fun entry => nameOf? entry.1 = some name).map
        fun entry => (name, entry.2) := by
    clear distinct
    induction entries with
    | nil => rfl
    | cons entry rest inductionHypothesis =>
      rw [named] at inductionHypothesis ⊢
      cases own : nameOf? entry.1 with
      | none => simp [own, inductionHypothesis]
      | some found => by_cases same : found = name <;> simp [own, same, inductionHypothesis]
  have keys : keysNamed name entries =
      (entries.filter fun entry => nameOf? entry.1 = some name).map Prod.fst := by
    rw [keysNamed, Config.Entries.keys, List.filter_map]
    rfl
  rw [ entry?, found, keys]
  rcases listed : entries.filter fun entry => nameOf? entry.1 = some name with
    _ | ⟨⟨key, value⟩, _ | ⟨second, rest⟩⟩ <;> rw [listed]
  · rfl
  · have member : (key, value) ∈ entries :=
      (List.mem_filter.1 (listed ▸ List.mem_singleton_self _)).1
    exact congrArg Except.ok (Config.Entries.get?_of_mem distinct member).symm
  · rfl

/-- Where a text is a key, that is found which stands under it, unless the name is there twice. -/
theorem eq_some_of_found {entries : Config.Entries} {name : String} {node : Value}
    {found : Option Value} (distinct : entries.keys.Nodup)
    (present : entries.get? (.text name) = some node)
    (result : entry? name (named entries) = .ok found) : found = some node := by
  have member : Value.text name ∈ keysNamed name entries := by
    refine List.mem_filter.2 ⟨?_, by simp⟩
    by_contra absent
    cases present.symm.trans (Config.Entries.get?_eq_none_iff.2 absent)
  rw [found_named distinct] at result
  split at result
  · next none => exact absurd (none ▸ member) List.not_mem_nil
  · next key single =>
    rw [single] at member
    rw [← Except.ok.inj result, ← List.mem_singleton.1 member, present]
  · cases result

/-- Whether all keys are texts. -/
def Plain (entries : Config.Entries) : Prop :=
  ∀ key ∈ entries.keys, ∃ name, key = .text name

/-- Where all keys are texts, each of them stands for a name. -/
theorem Plain.legible {entries : Config.Entries} (plain : Plain entries) : Legible entries := by
  intro key member
  obtain ⟨name, rfl⟩ := plain key member
  rfl

/-- Where all keys are texts, what stands under a name is found. -/
theorem Plain.found_named {entries : Config.Entries} (plain : Plain entries)
    (distinct : entries.keys.Nodup) (name : String) :
    entry? name (named entries) = .ok (entries.get? (.text name)) := by
  have keys : keysNamed name entries = entries.keys.filter fun key => key == .text name := by
    refine List.filter_congr fun key member => ?_
    obtain ⟨own, rfl⟩ := plain key member
    by_cases same : own = name <;> simp [same]
  rw [Settings.found_named distinct, keys, List.filter_beq]
  by_cases member : Value.text name ∈ entries.keys
  · rw [List.count_eq_one_of_mem distinct member]
    rfl
  · rw [List.count_eq_zero_of_not_mem member, Config.Entries.get?_eq_none_iff.2 member]
    rfl

/-! ## The settings -/

end Settings

/-- The settings, one by one. -/
inductive Setting where
  | workers
  | threadName
  | disableThreadSwitch
  | level
deriving DecidableEq, Repr

namespace Setting

/-- The section that a setting is in. -/
def part : Setting → String
  | workers | threadName => "executor"
  | disableThreadSwitch => "dispatch"
  | level => "logging"

/-- The key of a setting in its section. -/
def key : Setting → String
  | workers => "workers"
  | threadName => "thread_name"
  | disableThreadSwitch => "disable_thread_switch"
  | level => "level"

/-- The path of a setting in a tree. -/
def path (setting : Setting) : List Value :=
  [.text setting.part, .text setting.key]

end Setting

namespace Settings

/-- Whether a setting has the value that a node stands for. -/
def Reads (settings : Settings) : Setting → Value → Prop
  | .workers, node => count? node.untagged = some settings.workers
  | .threadName, node => text? node.untagged = some settings.threadName
  | .disableThreadSwitch, node => flag? node.untagged = some settings.disableThreadSwitch
  | .level, node => text? node.untagged = some settings.level

/-- Whether each setting has the value that the node which is given for it stands for. -/
def ReadFrom (settings : Settings) (nodes : Setting → Option Value) : Prop :=
  ∀ setting, ∃ node, nodes setting = some node ∧ settings.Reads setting node

/-- Settings that are read from the same nodes are the same. -/
theorem ReadFrom.unique {settings other : Settings} {nodes : Setting → Option Value}
    (reads : settings.ReadFrom nodes) (readsToo : other.ReadFrom nodes) : other = settings := by
  have same (setting : Setting) :
      ∃ node, settings.Reads setting node ∧ other.Reads setting node := by
    obtain ⟨node, found, own⟩ := reads setting
    obtain ⟨again, foundToo, others⟩ := readsToo setting
    obtain rfl := Option.some.inj (found.symm.trans foundToo)
    exact ⟨node, own, others⟩
  obtain ⟨_, workers, workers'⟩ := same .workers
  obtain ⟨_, name, name'⟩ := same .threadName
  obtain ⟨_, disabled, disabled'⟩ := same .disableThreadSwitch
  obtain ⟨_, level, level'⟩ := same .level
  obtain ⟨_, _, _, _⟩ := settings
  obtain ⟨_, _, _, _⟩ := other
  cases workers'.symm.trans workers
  cases name'.symm.trans name
  cases disabled'.symm.trans disabled
  cases level'.symm.trans level
  rfl

section Parts

variable {α : Type} {read? : Value → Option α} {default value : α} {part key : String}
  {root : Config.Entries} {node : Value}

/-- A node at a path of two keys stands in a section. -/
theorem exists_section
    (found : Config.nodeAt? [.text part, .text key] (.mapping root) = some node) :
    ∃ inner : Config.Entries, root.get? (.text part) = some (.mapping inner) ∧
      inner.get? (.text key) = some node := by
  obtain ⟨branch, present, below⟩ := Option.bind_eq_some_iff.1 found
  cases branch with
  | mapping inner =>
    obtain ⟨leaf, here, same⟩ := Option.bind_eq_some_iff.1 below
    cases same
    exact ⟨inner, present, here⟩
  | _ => cases below

/-- Whatever a setting is read as, it is read from the node at its path. -/
theorem read_of_setting {sections entries : List (String × Value)}
    (tidy : Config.Tidy (.mapping root))
    (found : Config.nodeAt? [.text part, .text key] (.mapping root) = some node)
    (outer : sectionEntries "" (.mapping root) = .ok sections)
    (within : subsection part sections = .ok entries)
    (result : setting read? default key entries = .ok value) :
    read? node.untagged = some value := by
  obtain ⟨inner, present, here⟩ := exists_section found
  have named_of_ok {name : String} {own : Config.Entries} {named' : List (String × Value)}
      (done : sectionEntries name (.mapping own) = .ok named') : named' = named own := by
    rw [sectionEntries_mapping] at done
    split at done
    · exact (Except.ok.inj done).symm
    · cases done
  obtain rfl := named_of_ok outer
  obtain ⟨branch, first, next⟩ := exists_of_bind_eq_ok within
  obtain rfl := eq_some_of_found tidy.distinct present first
  obtain rfl := named_of_ok next
  obtain ⟨leaf, second, last⟩ := exists_of_bind_eq_ok result
  obtain rfl := eq_some_of_found (tidy.of_get? present).distinct here second
  dsimp only at last
  split at last
  · next own read => exact read.trans (congrArg some (Except.ok.inj last))
  · cases last

/-- Where the keys are texts, a section that is there is found. -/
theorem subsection_named {inner : Config.Entries} (distinct : root.keys.Nodup) (plain : Plain root)
    (within : Plain inner) (present : root.get? (.text part) = some (.mapping inner)) :
    subsection part (named root) = .ok (named inner) := by
  rw [subsection, plain.found_named distinct, present]
  exact (sectionEntries_mapping part inner).trans (if_pos within.legible)

/-- Where the keys are texts, a setting is read as what the node at its key stands for. -/
theorem setting_named (default : α) {inner : Config.Entries} (distinct : inner.keys.Nodup)
    (plain : Plain inner) (present : inner.get? (.text key) = some node)
    (read : read? node.untagged = some value) :
    setting read? default key (named inner) = .ok value := by
  rw [setting, plain.found_named distinct, present]
  simp only [bind, Except.bind, read]

end Parts

/-- Settings that are read from a tree are read from the nodes at their paths. -/
theorem readFrom_of_ofTree {tree : Value} {settings : Settings} (tidy : Config.Tidy tree)
    (there : ∀ setting : Setting, ∃ node, Config.nodeAt? setting.path tree = some node)
    (result : ofTree tree = .ok settings) :
    settings.ReadFrom fun setting => Config.nodeAt? setting.path tree := by
  intro setting
  obtain ⟨node, found⟩ := there setting
  refine ⟨node, found, ?_⟩
  cases tree with
  | mapping root =>
    obtain ⟨sections, outer, result⟩ := exists_of_bind_eq_ok result
    obtain ⟨executor, first, result⟩ := exists_of_bind_eq_ok result
    obtain ⟨dispatch, second, result⟩ := exists_of_bind_eq_ok result
    obtain ⟨logging, third, result⟩ := exists_of_bind_eq_ok result
    obtain ⟨workers, ofWorkers, result⟩ := exists_of_bind_eq_ok result
    obtain ⟨threadName, ofName, result⟩ := exists_of_bind_eq_ok result
    obtain ⟨disabled, ofSwitch, result⟩ := exists_of_bind_eq_ok result
    obtain ⟨level, ofLevel, result⟩ := exists_of_bind_eq_ok result
    obtain rfl := Except.ok.inj result
    cases setting with
    | workers => exact read_of_setting tidy found outer first ofWorkers
    | threadName => exact read_of_setting tidy found outer first ofName
    | disableThreadSwitch => exact read_of_setting tidy found outer second ofSwitch
    | level => exact read_of_setting tidy found outer third ofLevel
  | _ => cases found

/-- Whether all keys of a tree and of the sections of settings in it are texts. -/
structure PlainTree (tree : Value) : Prop where
  root : ∀ entries, tree = .mapping entries → Plain entries
  part : ∀ (setting : Setting) (entries : Config.Entries),
    Config.nodeAt? [.text setting.part] tree = some (.mapping entries) → Plain entries

/-- Where the keys are texts, settings that stand at their paths are read. -/
theorem ofTree_of_readFrom {tree : Value} {settings : Settings} (tidy : Config.Tidy tree)
    (plain : PlainTree tree)
    (stands : settings.ReadFrom fun setting => Config.nodeAt? setting.path tree) :
    ofTree tree = .ok settings := by
  cases tree with
  | mapping root =>
    obtain ⟨workers, atWorkers, readWorkers⟩ := stands .workers
    obtain ⟨threadName, atName, readName⟩ := stands .threadName
    obtain ⟨disabled, atSwitch, readSwitch⟩ := stands .disableThreadSwitch
    obtain ⟨level, atLevel, readLevel⟩ := stands .level
    obtain ⟨executor, first, ofWorkers⟩ := exists_section atWorkers
    obtain ⟨same, again, ofName⟩ := exists_section atName
    obtain ⟨dispatch, second, ofSwitch⟩ := exists_section atSwitch
    obtain ⟨logging, third, ofLevel⟩ := exists_section atLevel
    obtain rfl := Value.mapping.inj (Option.some.inj (again.symm.trans first))
    have legible := plain.root root rfl
    have within (setting : Setting) {inner : Config.Entries}
        (present : Config.Entries.get? (.text setting.part) root = some (.mapping inner)) :
        Plain inner := by
      refine plain.part setting inner ?_
      rw [Config.nodeAt?, present]
      rfl
    have firstPlain := within .workers first
    have secondPlain := within .disableThreadSwitch second
    have thirdPlain := within .level third
    have firstDistinct := (tidy.of_get? first).distinct
    have secondDistinct := (tidy.of_get? second).distinct
    have thirdDistinct := (tidy.of_get? third).distinct
    have sections : sectionEntries "" (.mapping root) = .ok (named root) :=
      (sectionEntries_mapping "" root).trans (if_pos legible.legible)
    have ofExecutor := subsection_named tidy.distinct legible firstPlain first
    have ofDispatch := subsection_named tidy.distinct legible secondPlain second
    have ofLogging := subsection_named tidy.distinct legible thirdPlain third
    simp only [Setting.part, Setting.key] at *
    simp only [ofTree, sections, ofExecutor, ofDispatch, ofLogging, bind, Except.bind,
      setting_named _ firstDistinct firstPlain ofWorkers readWorkers,
      setting_named _ firstDistinct firstPlain ofName readName,
      setting_named _ secondDistinct secondPlain ofSwitch readSwitch,
      setting_named _ thirdDistinct thirdPlain ofLevel readLevel]
  | _ =>
    obtain ⟨_, none, _⟩ := stands .workers
    cases none

end Settings

/-! ## Files -/

namespace Config

/-- Whether a value is what a file holds; no file holds nothing. -/
def Holds : Option String → Value → Prop
  | none, file => file = .null
  | some text, file => Yaml.read text = .ok file

/-- The tree of a file that can be read. -/
theorem treeOf_of_holds {file : Option String} {external : Value} (holds : Holds file external)
    (assignments : List Assignment) :
    treeOf file assignments = .ok (applyAssignments (layered external) assignments) := by
  cases file with
  | none =>
    obtain rfl : external = .null := holds
    rfl
  | some text =>
    have read : Yaml.read text = .ok external := holds
    rw [treeOf]
    dsimp only
    rw [read]
    rfl

/-- The settings of a file that can be read are those of its tree. -/
theorem fromSources_of_holds {file : Option String} {external : Value} (holds : Holds file external)
    (assignments : List Assignment) : fromSources file assignments =
      (Settings.ofTree (applyAssignments (layered external) assignments)).mapError .misfit := by
  rw [fromSources, treeOf_of_holds holds]
  rfl

/-- A file that is no document stands against any settings. -/
theorem fromSources_of_error {text : String} {cause : Yaml.Refusal}
    (refused : Yaml.read text = .error cause) (assignments : List Assignment) :
    fromSources (some text) assignments = .error (.malformedFile cause) := by
  rw [fromSources, treeOf]
  dsimp only
  rw [refused]
  rfl

end Config

end SoapDispatch
