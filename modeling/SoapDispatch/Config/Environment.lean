import SoapDispatch.Config.Tree
import SoapDispatch.Yaml.Document

/-!
# Overrides from the environment

A variable whose name starts with `PMOSOAP_CONFIG__` overrides the setting whose path is the rest of
the name, cut at double underscores. Its value is read as YAML, or is taken as text if it cannot be
read. An override that a node on its path stands against is dropped.
-/

namespace SoapDispatch.Config

open SoapDispatch.Yaml (Value)

/-- What the names of variables that override a setting start with. -/
def variableStart : String := "PMOSOAP_CONFIG__"

/-- What follows the given characters at the front of others. -/
def after? : List Char → List Char → Option (List Char)
  | [], rest => some rest
  | c :: start, d :: rest => if c = d then after? start rest else none
  | _ :: _, [] => none

/-- Cuts characters at double underscores. -/
def cutAtDouble : List Char → List (List Char)
  | '_' :: '_' :: rest => [] :: cutAtDouble rest
  | c :: rest =>
    match cutAtDouble rest with
    | part :: parts => (c :: part) :: parts
    | [] => [[c]]
  | [] => [[]]

/-- What the environment assigns to a variable. -/
structure Assignment where
  name : String
  value : String
deriving DecidableEq, Repr

namespace Assignment

/-- The path of the setting that a variable overrides: keys in lower case. -/
def path? (assignment : Assignment) : Option (List Value) :=
  (after? variableStart.toList assignment.name.toList).map fun rest =>
    (cutAtDouble rest).map fun part => .text (Text.lowercase (String.ofList part))

/-- What a variable overrides a setting with. -/
def reading (assignment : Assignment) : Value :=
  match Yaml.read assignment.value with
  | .ok value => value
  | .error _ => .text assignment.value

/-- A tree of settings after the override by an assignment. -/
def apply (tree : Value) (assignment : Assignment) : Value :=
  match assignment.path? with
  | some path => (override assignment.reading path tree).1
  | none => tree

end Assignment

/-- A tree of settings after the overrides by assignments, one after the other. -/
def applyAssignments (tree : Value) (assignments : List Assignment) : Value :=
  assignments.foldl Assignment.apply tree

end SoapDispatch.Config
