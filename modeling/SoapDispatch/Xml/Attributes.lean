/-!
# Attributes

The attributes of an element are a list of pairs in the order in which their keys were first set.
Setting a key again keeps its position and replaces its value, so a list built by `set` alone has
no key twice.
-/

namespace SoapDispatch.Xml

/-- Keys with their values, in the order in which the keys were first set. -/
abbrev Attributes := List (String × String)

namespace Attributes

/-- The value of a key, if it is set. -/
def get? (key : String) : Attributes → Option String
  | [] => none
  | (name, value) :: rest => if name = key then some value else get? key rest

/-- Sets a key: in place if it is set already, at the end otherwise. -/
def set (key value : String) : Attributes → Attributes
  | [] => [(key, value)]
  | (name, old) :: rest =>
    if name = key then (name, value) :: rest else (name, old) :: set key value rest

/-- The attributes that setting these pairs one after the other gives. -/
def ofPairs (pairs : List (String × String)) : Attributes :=
  pairs.foldl (fun attributes pair => attributes.set pair.1 pair.2) []

/-- A key that was just set has the value it was set to. -/
@[simp] theorem get?_set_self (key value : String) (attributes : Attributes) :
    (attributes.set key value).get? key = some value := by
  induction attributes with
  | nil => simp [set, get?]
  | cons pair rest inductionHypothesis =>
    by_cases same : pair.1 = key <;> simp [set, get?, same, inductionHypothesis]

/-- Setting one key leaves the values of the others alone. -/
theorem get?_set_of_ne {key other : String} (distinct : other ≠ key) (value : String)
    (attributes : Attributes) : (attributes.set key value).get? other = attributes.get? other := by
  induction attributes with
  | nil => simp [set, get?, distinct.symm]
  | cons pair rest inductionHypothesis =>
    obtain ⟨name, old⟩ := pair
    by_cases same : name = key
    · subst same
      simp [set, get?, distinct.symm]
    · by_cases found : name = other
      · subst found
        simp [set, get?, same]
      · simp [set, get?, same, found, inductionHypothesis]

end Attributes

end SoapDispatch.Xml
