import SoapDispatch.Text.Lowercase
import SoapDispatch.Yaml.Value

/-!
# Trees of settings

Operations on YAML values as trees whose inner nodes are mappings: the node at a path, keys in lower
case, merging one tree into another, and overriding the node at a path. Keys are compared as they
are; the caller lowers them first where case must not matter.
-/

namespace SoapDispatch.Config

open SoapDispatch.Yaml (Value)

/-- The entries of a mapping. -/
abbrev Entries := List (Value × Value)

namespace Entries

/-- The value under a key. -/
def get? (key : Value) : Entries → Option Value
  | [] => none
  | (name, value) :: rest => if name = key then some value else get? key rest

/-- Puts a value under a key: where the key is, or else at the end. -/
def put (key value : Value) : Entries → Entries
  | [] => [(key, value)]
  | (name, old) :: rest =>
    if name = key then (name, value) :: rest else (name, old) :: put key value rest

/-- What was just put is found. -/
@[simp] theorem get?_put_self (key value : Value) (entries : Entries) :
    (entries.put key value).get? key = some value := by
  induction entries with
  | nil => simp [put, get?]
  | cons entry rest inductionHypothesis =>
    obtain ⟨name, old⟩ := entry
    by_cases same : name = key <;> simp [put, get?, same, inductionHypothesis]

/-- Putting a value under one key leaves the others alone. -/
theorem get?_put_of_ne {key other : Value} (distinct : other ≠ key) (value : Value)
    (entries : Entries) : (entries.put key value).get? other = entries.get? other := by
  induction entries with
  | nil => simp [put, get?, distinct.symm]
  | cons entry rest inductionHypothesis =>
    obtain ⟨name, old⟩ := entry
    by_cases same : name = key
    · subst same
      simp [put, get?, distinct.symm]
    · rw [put, if_neg same]
      by_cases found : name = other <;> simp [get?, found, inductionHypothesis]

/-- Putting back what is there changes nothing. -/
theorem put_of_get? {key value : Value} {entries : Entries}
    (present : entries.get? key = some value) : entries.put key value = entries := by
  induction entries with
  | nil => simp [get?] at present
  | cons entry rest inductionHypothesis =>
    obtain ⟨name, old⟩ := entry
    by_cases same : name = key
    · simp_all [put, get?]
    · simp_all [put, get?]

end Entries

/-- The node at a path of keys. -/
def nodeAt? : List Value → Value → Option Value
  | [], tree => some tree
  | key :: rest, .mapping entries => (Entries.get? key entries).bind (nodeAt? rest)
  | _ :: _, _ => none

/-- A key in lower case; keys that are no texts have no case. -/
def lowerKey : Value → Value
  | .text name => .text (Text.lowercase name)
  | key => key

mutual

/-- A tree with all keys in lower case. Of two keys that become one, the later gives the value. -/
def lowerKeys : Value → Value
  | .mapping entries => .mapping (lowerEntries [] entries)
  | .sequence items => .sequence (lowerItems items)
  | value => value

/-- Adds entries with their keys in lower case to others. -/
def lowerEntries (done : Entries) : List (Value × Value) → Entries
  | [] => done
  | (key, value) :: rest => lowerEntries (done.put (lowerKey key) (lowerKeys value)) rest

/-- Items with all keys in lower case. -/
def lowerItems : List Value → List Value
  | [] => []
  | item :: rest => lowerKeys item :: lowerItems rest

end

mutual

/-- Merges the second tree into the first: mappings key by key; all else is replaced. -/
def merge : Value → Value → Value
  | .mapping entries, .mapping added => .mapping (mergeEntries entries added)
  | _, value => value

/-- Merges entries into others. -/
def mergeEntries (entries : Entries) : List (Value × Value) → Entries
  | [] => entries
  | (key, value) :: rest =>
    let merged :=
      match entries.get? key with
      | some old => merge old value
      | none => value
    mergeEntries (entries.put key merged) rest

end

/-- The tree after an override of the node at a path, and whether the override was made. Mappings
that are missing on the way are put in; a node on the way that is no mapping stands against it. -/
def override (value : Value) : List Value → Value → Value × Bool
  | [], _ => (value, true)
  | [key], .mapping entries => (.mapping (Entries.put key value entries), true)
  | key :: next :: rest, .mapping entries =>
    let below := override value (next :: rest) ((Entries.get? key entries).getD (.mapping []))
    (.mapping (Entries.put key below.1 entries), below.2)
  | _ :: _, tree => (tree, false)

end SoapDispatch.Config
