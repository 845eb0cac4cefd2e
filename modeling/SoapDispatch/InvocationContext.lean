import SoapDispatch.Dictionary
import SoapDispatch.Text.Lowercase

/-!
# Invocation contexts

Properties that accompany a single invocation. One of them asks for deferred invocations to run on
the thread that makes them.
-/

namespace SoapDispatch

/-- The value of a property. -/
inductive Property where
  | null
  | flag (value : Bool)
  /-- A number as it is written. -/
  | number (written : String)
  | text (value : String)
  | list (items : List Property)
  | group (members : List (String × Property))
deriving Inhabited

/-- The yes or no that a property says: as a flag, or as a text that is the word `true` or is
not. -/
def Property.asFlag? : Property → Option Bool
  | flag value => some value
  | text value => some (Text.asciiLowercase value == "true")
  | _ => none

/-- The properties of an invocation. -/
structure InvocationContext where
  properties : Dictionary Property := []

namespace InvocationContext

/-- The property that decides where deferred invocations run. -/
def disableThreadSwitchKey : String := "pmosoap.server.disableThreadSwitch"

/-- The property under a key. -/
def property? (context : InvocationContext) (key : String) : Option Property :=
  context.properties.get? key

/-- What the property under a key says as a flag. -/
def flag? (context : InvocationContext) (key : String) : Option Bool :=
  (context.property? key).bind Property.asFlag?

/-- Whether deferred invocations are to run on the calling thread, if the context says so. -/
def disableThreadSwitch? (context : InvocationContext) : Option Bool :=
  context.flag? disableThreadSwitchKey

end InvocationContext

end SoapDispatch
