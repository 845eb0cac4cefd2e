import SoapDispatch.Yaml.Real

/-!
# YAML values

What a YAML document holds. A mapping is a list of pairs in the order of the document; its keys are
values of any kind and all differ. Values can be told apart (`DecidableEq`), as reading a mapping
and finding a key in it require.
-/

namespace SoapDispatch.Yaml

/-- What a node of a document stands for. -/
inductive Value where
  | null
  | bool (value : Bool)
  | int (value : Int)
  | real (value : Real)
  | text (value : String)
  | sequence (items : List Value)
  | mapping (entries : List (Value × Value))
  /-- A value marked with a tag of the document's own. -/
  | tagged (tag : String) (value : Value)

namespace Value

mutual

/-- Whether two values are the same. -/
def same : Value → Value → Bool
  | .null, .null => true
  | .bool a, .bool b => a == b
  | .int a, .int b => a == b
  | .real a, .real b => a == b
  | .text a, .text b => a == b
  | .sequence a, .sequence b => sameItems a b
  | .mapping a, .mapping b => sameEntries a b
  | .tagged tag a, .tagged tag' b => tag == tag' && same a b
  | _, _ => false

/-- Whether two lists hold the same values. -/
def sameItems : List Value → List Value → Bool
  | [], [] => true
  | a :: as, b :: bs => same a b && sameItems as bs
  | _, _ => false

/-- Whether two lists hold the same pairs. -/
def sameEntries : List (Value × Value) → List (Value × Value) → Bool
  | [], [] => true
  | (k, a) :: as, (l, b) :: bs => same k l && same a b && sameEntries as bs
  | _, _ => false

end

mutual

/-- Sameness is equality. -/
theorem same_iff : ∀ a b : Value, same a b = true ↔ a = b
  | .null, b => by cases b <;> simp [same]
  | .bool _, b => by cases b <;> simp [same]
  | .int _, b => by cases b <;> simp [same]
  | .real _, b => by cases b <;> simp [same]
  | .text _, b => by cases b <;> simp [same]
  | .sequence a, b => by
    cases b <;> simp [same]
    exact sameItems_iff _ _
  | .mapping a, b => by
    cases b <;> simp [same]
    exact sameEntries_iff _ _
  | .tagged _ a, b => by
    cases b <;> simp [same]
    intro _
    exact same_iff _ _

theorem sameItems_iff : ∀ a b : List Value, sameItems a b = true ↔ a = b
  | [], b => by cases b <;> simp [sameItems]
  | a :: as, b => by
    cases b with
    | nil => simp [sameItems]
    | cons b bs => simp [sameItems, same_iff a b, sameItems_iff as bs]

theorem sameEntries_iff : ∀ a b : List (Value × Value), sameEntries a b = true ↔ a = b
  | [], b => by cases b <;> simp [sameEntries]
  | (k, a) :: as, b => by
    cases b with
    | nil => simp [sameEntries]
    | cons pair bs =>
      obtain ⟨l, b⟩ := pair
      simp [sameEntries, same_iff k l, same_iff a b, sameEntries_iff as bs, Prod.ext_iff]

end

instance : DecidableEq Value := fun a b => decidable_of_iff _ (same_iff a b)

/-- The value without the tags around it. -/
def untagged : Value → Value
  | .tagged _ value => untagged value
  | value => value

mutual

/-- Whether two values are the same but for the order of entries in mappings. -/
def agrees : Value → Value → Bool
  | .sequence a, .sequence b => agreesItems a b
  | .mapping a, .mapping b => a.length == b.length && agreesEntries a b
  | .tagged tag a, .tagged tag' b => tag == tag' && agrees a b
  | a, b => same a b

/-- Whether two lists hold the same values but for the order of entries in mappings. -/
def agreesItems : List Value → List Value → Bool
  | [], [] => true
  | a :: as, b :: bs => agrees a b && agreesItems as bs
  | _, _ => false

/-- Whether each of some entries is among others. -/
def agreesEntries : List (Value × Value) → List (Value × Value) → Bool
  | [], _ => true
  | (key, value) :: rest, others =>
    (others.any fun other => agrees key other.1 && agrees value other.2) &&
      agreesEntries rest others

end

end Value

end SoapDispatch.Yaml
