import SoapDispatch.DispatchError
import SoapDispatch.Text.Quoted

/-!
# Executors

Deferred work is handed to an executor, which is found by the role it is registered for.
-/

namespace SoapDispatch

/-- Who runs deferred work, and when. -/
inductive Executor where
  /-- The thread that hands the work in, at once. -/
  | inline
  /-- The thread that asks for it, in the order the work was handed in. -/
  | queued
  /-- Another thread. -/
  | pooled
deriving DecidableEq, Repr

/-- The role that deferred invocations are run by. -/
def serverRole : String := "server-dispatch"

/-- Executors by role. -/
abbrev ExecutorRegistry := Dictionary Executor

namespace ExecutorRegistry

/-- Registers an executor for a role, in place of the one before. -/
def register (registry : ExecutorRegistry) (role : String) (executor : Executor) :
    ExecutorRegistry :=
  Dictionary.insert role executor registry

/-- The executor that a role needs. -/
def require (registry : ExecutorRegistry) (role : String) : Except DispatchError Executor :=
  match registry.get? role with
  | some executor => .ok executor
  | none => .error (.executorUnavailable role)

/-- The description of a registry, by its roles. -/
def describe (registry : ExecutorRegistry) : String :=
  "ExecutorRegistry \x7b roles: " ++ Text.quotedList (registry.map Prod.fst) ++ " \x7d"

end ExecutorRegistry

end SoapDispatch
