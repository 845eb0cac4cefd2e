import SoapDispatch.Config.Tree

/-!
# Settings

The settings of the dispatch engine and how they are read from a tree. Reading is strict: a setting
has the type it must have, and only keys that are not there leave the default. Settings the engine
does not know are ignored.
-/

namespace SoapDispatch

open SoapDispatch.Yaml (Value)

/-- The settings of the dispatch engine. -/
structure Settings where
  /-- How many threads the shared pool has. -/
  workers : Nat := 4
  /-- What the threads of the shared pool are called. -/
  threadName : String := "pmosoap-dispatch"
  /-- Whether deferred invocations run on the calling thread. -/
  disableThreadSwitch : Bool := false
  /-- How much is logged. -/
  level : String := "info"
deriving DecidableEq, Repr

namespace Settings

/-- Why settings cannot be read from a tree. -/
inductive Misfit where
  /-- A section that is no mapping with texts as keys. -/
  | malformedSection (name : String)
  /-- A key of a section that occurs twice, with and without a tag. -/
  | repeatedKey (name : String)
  /-- A setting of the wrong type. -/
  | malformedSetting (name : String)
deriving DecidableEq, Repr

/-- The entries of a section by the names of their keys. A section that stands for nothing has
none. -/
def sectionEntries (name : String) (tree : Value) : Except Misfit (List (String × Value)) :=
  match tree.untagged with
  | .null => .ok []
  | .mapping entries =>
    entries.mapM fun (key, value) =>
      match key.untagged with
      | .text name => .ok (name, value)
      | _ => .error (.malformedSection name)
  | _ => .error (.malformedSection name)

/-- The value under a name, which must not occur twice. -/
def entry? (name : String) (entries : List (String × Value)) : Except Misfit (Option Value) :=
  match entries.filter fun entry => entry.1 = name with
  | [] => .ok none
  | [entry] => .ok (some entry.2)
  | _ => .error (.repeatedKey name)

/-- The section under a name; one that is missing has no entries. -/
def subsection (name : String) (entries : List (String × Value)) :
    Except Misfit (List (String × Value)) := do
  match ← entry? name entries with
  | some tree => sectionEntries name tree
  | none => .ok []

/-- The setting under a name, read as the type it must have, or else its default. -/
def setting {α : Type} (read? : Value → Option α) (default : α) (name : String)
    (entries : List (String × Value)) : Except Misfit α := do
  match ← entry? name entries with
  | none => .ok default
  | some value =>
    match read? value.untagged with
    | some setting => .ok setting
    | none => .error (.malformedSetting name)

/-- A natural number of 64 bits. -/
def count? : Value → Option Nat
  | .int value => if 0 ≤ value ∧ value.toNat < Nat.pow 2 64 then some value.toNat else none
  | _ => none

/-- A text. -/
def text? : Value → Option String
  | .text value => some value
  | _ => none

/-- A truth value. -/
def flag? : Value → Option Bool
  | .bool value => some value
  | _ => none

/-- The settings in a tree. -/
def ofTree (tree : Value) : Except Misfit Settings := do
  let sections ← sectionEntries "" tree
  let executor ← subsection "executor" sections
  let dispatch ← subsection "dispatch" sections
  let logging ← subsection "logging" sections
  let usual : Settings := {}
  .ok {
    workers := ← setting count? usual.workers "workers" executor
    threadName := ← setting text? usual.threadName "thread_name" executor
    disableThreadSwitch :=
      ← setting flag? usual.disableThreadSwitch "disable_thread_switch" dispatch
    level := ← setting text? usual.level "level" logging }

/-- The tree that holds the settings: with every setting in its section. -/
def toTree (settings : Settings) : Value :=
  let part := fun (name : String) (entries : Config.Entries) =>
    (Value.text name, Value.mapping entries)
  .mapping [
    part "executor" [
      (.text "workers", .int settings.workers),
      (.text "thread_name", .text settings.threadName)],
    part "dispatch" [(.text "disable_thread_switch", .bool settings.disableThreadSwitch)],
    part "logging" [(.text "level", .text settings.level)]]

end Settings

end SoapDispatch
