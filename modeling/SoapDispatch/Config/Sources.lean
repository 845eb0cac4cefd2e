import SoapDispatch.Config.Environment
import SoapDispatch.Config.Settings

/-!
# Where settings come from

Settings come in three layers: the defaults, a file, and variables of the environment, each of which
prevails over the ones before it. The file is looked for in one directory only.
-/

namespace SoapDispatch.Config

open SoapDispatch.Yaml (Value)

/-- Why there are no settings. -/
inductive SettingsError where
  /-- The file is no YAML document. -/
  | malformedFile (cause : Yaml.Refusal)
  | misfit (cause : Settings.Misfit)
deriving DecidableEq, Repr

/-- The defaults as a tree. -/
def defaultTree : Value :=
  ({} : Settings).toTree

/-- The defaults with a file merged into them, all keys in lower case. A file that holds nothing, be
it with a tag, changes nothing. -/
def layered (file : Value) : Value :=
  lowerKeys (if file.untagged = .null then defaultTree else merge defaultTree (lowerKeys file))

/-- The tree that the layers make. -/
def treeOf (file : Option String) (assignments : List Assignment) : Except SettingsError Value := do
  let external ←
    match file with
    | none => .ok Value.null
    | some text => (Yaml.read text).mapError .malformedFile
  .ok (applyAssignments (layered external) assignments)

/-- The settings that a file and variables give. -/
def fromSources (file : Option String) (assignments : List Assignment) :
    Except SettingsError Settings := do
  let tree ← treeOf file assignments
  (Settings.ofTree tree).mapError .misfit

/-- What is found where a directory is named. -/
inductive Place where
  | missing
  /-- A directory, and the text of the file of settings in it if there is one. -/
  | directory (file : Option String)
deriving DecidableEq, Repr

namespace Place

/-- Whether there is a directory. -/
def isThere : Place → Bool
  | .missing => false
  | .directory _ => true

/-- The text of the file of settings. -/
def file? : Place → Option String
  | .missing => none
  | .directory file => file

end Place

/-- The places where the directory of settings may be. -/
structure Places where
  /-- The directory that the caller names. -/
  argument : Option Place := none
  /-- The directory that the environment names. -/
  environment : Option Place := none
  /-- The directory in the working directory. -/
  working : Place := .missing
  /-- The directory in the user's home. -/
  home : Place := .missing
deriving DecidableEq, Repr

/-- The place that decides: the first one that is named, or else the first one that is there. -/
def Places.chosen (places : Places) : Place :=
  match places.argument.or places.environment with
  | some place => place
  | none => if places.working.isThere then places.working else places.home

/-- The settings that the chosen place and variables give. -/
def load (places : Places) (assignments : List Assignment) : Except SettingsError Settings :=
  fromSources places.chosen.file? assignments

end SoapDispatch.Config
