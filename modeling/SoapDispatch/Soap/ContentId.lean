/-!
# Content ids

Attachments made here get content ids from a supply that every encoding draws from and hands on. The
supply fixes the ids in advance, so two runs that start from one supply draw the same ids.
-/

namespace SoapDispatch.Soap

/-- A supply of content ids: the unique part of every id, and how many have been drawn. -/
structure IdSupply where
  unique : Nat → String
  drawn : Nat := 0

namespace IdSupply

/-- The id with the given number. -/
def id (supply : IdSupply) (number : Nat) : String :=
  supply.unique number ++ "@pmosoap"

/-- The next id. -/
def next (supply : IdSupply) : String :=
  supply.id supply.drawn

/-- The supply without its next id. -/
def rest (supply : IdSupply) : IdSupply :=
  { supply with drawn := supply.drawn + 1 }

/-- The ids that are still to be drawn differ from one another and from the given ones. -/
def FreshFor (supply : IdSupply) (taken : List String) : Prop :=
  Function.Injective supply.unique ∧ ∀ number ≥ supply.drawn, supply.id number ∉ taken

/-- What is drawn is not among the ids the supply is fresh for. -/
theorem FreshFor.next_not_mem {supply : IdSupply} {taken : List String}
    (fresh : supply.FreshFor taken) : supply.next ∉ taken :=
  fresh.2 supply.drawn (Nat.le_refl _)

/-- Once an id has been drawn and taken, the rest of the supply is fresh still. -/
theorem FreshFor.rest {supply : IdSupply} {taken : List String} (fresh : supply.FreshFor taken) :
    supply.rest.FreshFor (supply.next :: taken) := by
  refine ⟨fresh.1, fun number later => ?_⟩
  simp only [IdSupply.rest, ge_iff_le] at later
  intro known
  rcases List.mem_cons.1 known with same | old
  · have : number = supply.drawn := fresh.1 ((String.append_left_inj _).1 same)
    omega
  · exact fresh.2 number (by omega) old

end IdSupply

end SoapDispatch.Soap
