/-!
# Dictionaries

Values under text keys. A dictionary is a list ordered by key; inserting keeps the order and
replaces the value of a key that is there already, so what a dictionary holds determines it.
-/

namespace SoapDispatch

/-- Values under text keys, ordered by key. -/
abbrev Dictionary (α : Type) := List (String × α)

namespace Dictionary

variable {α : Type}

/-- The value under a key, if there is one. -/
def get? (key : String) : Dictionary α → Option α
  | [] => none
  | (name, value) :: rest => if name = key then some value else get? key rest

/-- Puts a value under a key, in place of the one that is there. -/
def insert (key : String) (value : α) : Dictionary α → Dictionary α
  | [] => [(key, value)]
  | (name, old) :: rest =>
    if name = key then (key, value) :: rest
    else if key < name then (key, value) :: (name, old) :: rest
    else (name, old) :: insert key value rest

/-- The dictionary that inserting these pairs one after the other gives. -/
def ofPairs (pairs : List (String × α)) : Dictionary α :=
  pairs.foldl (fun dictionary pair => dictionary.insert pair.1 pair.2) []

/-- What was just inserted is found. -/
@[simp] theorem get?_insert_self (key : String) (value : α) (dictionary : Dictionary α) :
    (dictionary.insert key value).get? key = some value := by
  induction dictionary with
  | nil => simp [insert, get?]
  | cons pair rest inductionHypothesis =>
    obtain ⟨name, old⟩ := pair
    rw [insert]
    split
    · simp [get?]
    · rename_i different
      split
      · simp [get?]
      · simp [get?, different, inductionHypothesis]

/-- Inserting under one key leaves the others alone. -/
theorem get?_insert_of_ne {key other : String} (distinct : other ≠ key) (value : α)
    (dictionary : Dictionary α) :
    (dictionary.insert key value).get? other = dictionary.get? other := by
  induction dictionary with
  | nil => simp [insert, get?, distinct.symm]
  | cons pair rest inductionHypothesis =>
    obtain ⟨name, old⟩ := pair
    rw [insert]
    split
    · rename_i same
      subst same
      simp [get?, distinct.symm]
    · split
      · simp [get?, distinct.symm]
      · by_cases found : name = other <;> simp [get?, found, inductionHypothesis]

/-- A key has what was inserted under it, and every other key what it had. -/
theorem get?_insert (key other : String) (value : α) (dictionary : Dictionary α) :
    (dictionary.insert key value).get? other =
      if other = key then some value else dictionary.get? other := by
  by_cases same : other = key
  · rw [if_pos same, same, get?_insert_self]
  · rw [if_neg same, get?_insert_of_ne same]

/-- Inserting adds no key but the one it inserts under. -/
theorem eq_or_mem_of_mem_keys_insert {key other : String} {value : α} {dictionary : Dictionary α}
    (member : other ∈ (dictionary.insert key value).map Prod.fst) :
    other = key ∨ other ∈ dictionary.map Prod.fst := by
  induction dictionary with
  | nil => exact .inl (List.mem_singleton.1 member)
  | cons pair rest inductionHypothesis =>
    obtain ⟨name, old⟩ := pair
    rw [insert] at member
    split at member
    · next same =>
      subst same
      exact .inr member
    · split at member
      · exact List.mem_cons.1 member
      · rcases List.mem_cons.1 member with first | later
        · exact .inr (List.mem_cons.2 (.inl first))
        · rcases inductionHypothesis later with new | known
          · exact .inl new
          · exact .inr (List.mem_cons_of_mem _ known)

/-- A new key makes a dictionary longer by one. -/
theorem length_insert_of_notMem {key : String} {dictionary : Dictionary α}
    (absent : key ∉ dictionary.map Prod.fst) (value : α) :
    (dictionary.insert key value).length = dictionary.length + 1 := by
  induction dictionary with
  | nil => rfl
  | cons pair rest inductionHypothesis =>
    obtain ⟨name, old⟩ := pair
    simp only [List.map_cons, List.mem_cons, not_or] at absent
    rw [insert, if_neg (Ne.symm absent.1)]
    split
    · rfl
    · rw [List.length_cons, inductionHypothesis absent.2, List.length_cons]

/-- The keys are those under which something is found. -/
theorem mem_keys_iff {key : String} {dictionary : Dictionary α} :
    key ∈ dictionary.map Prod.fst ↔ (dictionary.get? key).isSome = true := by
  induction dictionary with
  | nil => simp [get?]
  | cons pair rest inductionHypothesis =>
    obtain ⟨name, value⟩ := pair
    rw [List.map_cons, List.mem_cons, inductionHypothesis, get?]
    by_cases same : name = key
    · simp [same]
    · simp [same, Ne.symm same]

/-- A new key makes no key stand twice. -/
theorem nodup_keys_insert {key : String} {dictionary : Dictionary α}
    (absent : key ∉ dictionary.map Prod.fst) (distinct : (dictionary.map Prod.fst).Nodup)
    (value : α) : ((dictionary.insert key value).map Prod.fst).Nodup := by
  induction dictionary with
  | nil => simp [insert]
  | cons pair rest inductionHypothesis =>
    obtain ⟨name, old⟩ := pair
    simp only [List.map_cons, List.mem_cons, not_or] at absent
    obtain ⟨own, others⟩ := List.nodup_cons.1 distinct
    rw [insert, if_neg (Ne.symm absent.1)]
    split
    · exact List.nodup_cons.2 ⟨by simpa using absent, distinct⟩
    · refine List.nodup_cons.2 ⟨?_, inductionHypothesis absent.2 others⟩
      intro member
      rcases eq_or_mem_of_mem_keys_insert member with same | later
      · exact absent.1 same.symm
      · exact own later

end Dictionary

end SoapDispatch
