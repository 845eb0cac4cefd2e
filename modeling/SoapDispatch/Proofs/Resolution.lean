import SoapDispatch.Contract

/-!
# Resolving types side by side

Any number of calls share one memory of payload types. A call to resolve a type is cut into the
steps that others may come between: it looks at the memory, it reads the contract if the class is
not known, and it remembers what the contract declares unless something is remembered by then.
Asking what is remembered takes one step.

The calls answer as if they had been served one after the other. `Resolution.Linear` is the
invariant behind this: every step may settle the answer of its call, and the calls are in order when
they are put in the order of being settled. A contract that declares no type is settled by the look
at the memory already, as the class may be known by the time the contract is read.
-/

namespace SoapDispatch

/-! ## Remembering -/

namespace TypeMemory

variable {memory : TypeMemory} {className : String} {type known : PayloadType}

/-- A class that is known stays as it is known. -/
theorem remember_of_known (found : memory.get? className = some known) :
    memory.remember className type = (known, memory) := by
  simp only [remember, found]

/-- A class that is not known is remembered with its type. -/
theorem remember_of_unknown (unknown : memory.get? className = none) :
    memory.remember className type = (type, Dictionary.insert className type memory) := by
  simp only [remember, unknown]

/-- What is given is what is remembered afterwards. -/
theorem get?_remember_self (memory : TypeMemory) (className : String) (type : PayloadType) :
    (memory.remember className type).2.get? className =
      some (memory.remember className type).1 := by
  cases found : memory.get? className with
  | some known => rw [remember_of_known found, found]
  | none => rw [remember_of_unknown found, Dictionary.get?_insert_self]

/-- Remembering a class leaves the others alone. -/
theorem get?_remember_of_ne {other : String} (distinct : other ≠ className) :
    (memory.remember className type).2.get? other = memory.get? other := by
  cases found : memory.get? className with
  | some known => rw [remember_of_known found]
  | none => rw [remember_of_unknown found, Dictionary.get?_insert_of_ne distinct]

/-- What is remembered once is remembered from then on. -/
theorem get?_remember_of_some {other : String} (found : memory.get? other = some known) :
    (memory.remember className type).2.get? other = some known := by
  by_cases same : other = className
  · subst same
    rw [remember_of_known found, found]
  · rw [get?_remember_of_ne same, found]

/-- A contract that declares a type is resolved by remembering it, whether the class is known or
not. -/
theorem resolve_of_payloadType {contract : Contract} (memory : TypeMemory)
    (declares : contract.payloadType = .ok type) : memory.resolve contract =
      (.ok (memory.remember contract.className type).1,
        (memory.remember contract.className type).2) := by
  cases found : memory.get? contract.className with
  | some known => simp only [resolve, found, remember_of_known found]
  | none => simp only [resolve, found, declares]

/-- A class that is known is resolved to what is remembered, whatever its contract declares. -/
theorem resolve_of_known {contract : Contract}
    (found : memory.get? contract.className = some known) :
    memory.resolve contract = (.ok known, memory) := by
  simp only [resolve, found]

/-- A contract that declares no type is refused if its class is not known. -/
theorem resolve_of_refused {contract : Contract} {cause : TypeRefusal}
    (unknown : memory.get? contract.className = none)
    (refused : contract.payloadType = .error cause) :
    memory.resolve contract = (.error (.unsupportedPayloadType cause), memory) := by
  simp only [resolve, unknown, refused]

/-- A refusal leaves the memory alone. -/
theorem snd_resolve_of_error {contract : Contract} {error : DispatchError}
    (refused : (memory.resolve contract).1 = .error error) :
    (memory.resolve contract).2 = memory := by
  cases found : memory.get? contract.className with
  | some known => rw [resolve_of_known found]
  | none =>
    cases declared : contract.payloadType with
    | error cause => rw [resolve_of_refused found declared]
    | ok type =>
      rw [resolve_of_payloadType memory declared] at refused
      exact nomatch refused

end TypeMemory

/-- A contract is refused unless it has exactly one type argument that names a type. -/
theorem Contract.typeArguments_of_refused {contract : Contract} {cause : TypeRefusal}
    (refused : contract.payloadType = .error cause) :
    contract.typeArguments = [] ∨ 2 ≤ contract.typeArguments.length ∨
      ∃ name, contract.typeArguments = [name] ∧ PayloadType.ofDeclaration? name = none := by
  unfold payloadType at refused
  split at refused
  · next none => exact .inl none
  · next name single =>
    split at refused
    · exact nomatch refused
    · next unknown => exact .inr (.inr ⟨name, single, unknown⟩)
  · next notEmpty notSingle =>
    right
    left
    rcases shape : contract.typeArguments with _ | ⟨first, _ | ⟨second, rest⟩⟩
    · exact absurd shape notEmpty
    · exact absurd shape (notSingle first)
    · simp

namespace Resolution

/-! ## Calls and their steps -/

/-- What is asked of the memory. -/
inductive Request where
  | resolve (contract : Contract)
  /-- Which type is remembered for a class. -/
  | cached (className : String)
  /-- How many types are remembered. -/
  | count

/-- What is answered. -/
inductive Answer where
  | resolved (result : Except DispatchError PayloadType)
  | cached (known : Option PayloadType)
  | count (size : Nat)

/-- The answer to a request that nothing comes between, and what is remembered afterwards. -/
def serve (memory : TypeMemory) : Request → Answer × TypeMemory
  | .resolve contract => (.resolved (memory.resolve contract).1, (memory.resolve contract).2)
  | .cached className => (.cached (memory.get? className), memory)
  | .count => (.count memory.length, memory)

/-- A call that has been made, and how far it has got. -/
inductive Call where
  /-- The class was not known; the contract is read next. -/
  | missed (contract : Contract)
  /-- The contract declares a type, which is remembered next. -/
  | declared (contract : Contract) (type : PayloadType)
  | answered (request : Request) (answer : Answer)

namespace Call

/-- A call behind its first step, the look at the memory. -/
def opening (memory : TypeMemory) : Request → Call
  | .resolve contract =>
    match memory.get? contract.className with
    | some known => .answered (.resolve contract) (.resolved (.ok known))
    | none => .missed contract
  | .cached className => .answered (.cached className) (.cached (memory.get? className))
  | .count => .answered .count (.count memory.length)

/-- A call that has read its contract. -/
def reading (contract : Contract) : Call :=
  match contract.payloadType with
  | .ok type => .declared contract type
  | .error cause =>
    .answered (.resolve contract) (.resolved (.error (.unsupportedPayloadType cause)))

/-- A call that has remembered its type, and has been given the one that is remembered. -/
def remembering (memory : TypeMemory) (contract : Contract) (type : PayloadType) : Call :=
  .answered (.resolve contract) (.resolved (.ok (memory.remember contract.className type).1))

/-- What was asked and answered, if the call is over. -/
def answered? : Call → Option (Request × Answer)
  | .answered request answer => some (request, answer)
  | _ => none

/-- What was asked and is answered, or will be answered whatever the other calls do. -/
def settled? : Call → Option (Request × Answer)
  | .missed contract => (reading contract).answered?
  | .declared _ _ => none
  | .answered request answer => some (request, answer)

end Call

/-- A memory with the calls that have been made on it, by number. -/
structure Resolver where
  memory : TypeMemory := []
  calls : List Call := []

namespace Resolver

/-- What the call of a number has asked and has been answered. -/
def answered? (resolver : Resolver) (number : Nat) : Option (Request × Answer) :=
  resolver.calls[number]?.bind Call.answered?

/-- A call has been answered when it is over. -/
theorem answered?_eq_some_iff {resolver : Resolver} {number : Nat} {request : Request}
    {answer : Answer} : resolver.answered? number = some (request, answer) ↔
      resolver.calls[number]? = some (.answered request answer) := by
  rw [answered?, Option.bind_eq_some_iff]
  constructor
  · rintro ⟨call, present, answered⟩
    cases call with
    | missed contract => exact nomatch answered
    | declared contract type => exact nomatch answered
    | answered asked given =>
      cases answered
      exact present
  · intro present
    exact ⟨_, present, rfl⟩

/-- What the call of a number has asked and is bound to be answered. -/
def settled? (resolver : Resolver) (number : Nat) : Option (Request × Answer) :=
  resolver.calls[number]?.bind Call.settled?

/-- Whether some call has resolved a class. -/
def Resolved (resolver : Resolver) (className : String) : Prop :=
  ∃ number contract type,
    resolver.answered? number = some (.resolve contract, .resolved (.ok type)) ∧
      contract.className = className

end Resolver

/-- What a call does in one step. -/
inductive Event where
  /-- It is made, and looks at the memory. -/
  | opened (request : Request)
  /-- It reads its contract. -/
  | read
  /-- It remembers what its contract declares, unless something is remembered by then. -/
  | remembered

/-- One step of the call of a number. -/
inductive Step (resolver : Resolver) : Nat → Event → Resolver → Prop where
  | opening (request : Request) :
      Step resolver resolver.calls.length (.opened request)
        { resolver with calls := resolver.calls ++ [.opening resolver.memory request] }
  | reading {number : Nat} {contract : Contract}
      (missed : resolver.calls[number]? = some (.missed contract)) :
      Step resolver number .read
        { resolver with calls := resolver.calls.set number (.reading contract) }
  | remembering {number : Nat} {contract : Contract} {type : PayloadType}
      (declared : resolver.calls[number]? = some (.declared contract type)) :
      Step resolver number .remembered {
        memory := (resolver.memory.remember contract.className type).2
        calls := resolver.calls.set number (.remembering resolver.memory contract type) }

/-- A step that was taken. -/
structure Moment where
  before : Resolver
  number : Nat
  event : Event
  after : Resolver

/-- The steps of any calls in any order. -/
inductive Steps (start : Resolver) : List Moment → Resolver → Prop where
  | refl : Steps start [] start
  | step {moments : List Moment} {resolver next : Resolver} {number : Nat} {event : Event}
      (prior : Steps start moments resolver) (taken : Step resolver number event next) :
      Steps start (moments ++ [⟨resolver, number, event, next⟩]) next

/-! ## What one step does -/

section Step

variable {resolver next : Resolver} {number : Nat} {event : Event}

/-- A step leaves the other calls alone. -/
theorem Step.call_of_ne (taken : Step resolver number event next) {other : Nat}
    (distinct : other ≠ number) : next.calls[other]? = resolver.calls[other]? := by
  cases taken with
  | opening request =>
    by_cases earlier : other < resolver.calls.length
    · exact List.getElem?_append_left earlier
    · have later : resolver.calls.length < other := by omega
      simp [List.getElem?_append_right (Nat.le_of_lt later), Nat.sub_ne_zero_of_lt later,
        List.getElem?_eq_none (Nat.le_of_lt later)]
  | reading missed => exact List.getElem?_set_ne (Ne.symm distinct)
  | remembering declared => exact List.getElem?_set_ne (Ne.symm distinct)

/-- All that a step can do to its own call: open it, refuse its contract or find a type in it, or
answer it with what is remembered. -/
theorem Step.call_self (taken : Step resolver number event next) :
    (∃ request, event = .opened request ∧ number = resolver.calls.length ∧
      resolver.calls[number]? = none ∧ next.memory = resolver.memory ∧
      next.calls[number]? = some (.opening resolver.memory request)) ∨
    (∃ contract, event = .read ∧ resolver.calls[number]? = some (.missed contract) ∧
      next.memory = resolver.memory ∧ next.calls[number]? = some (.reading contract)) ∨
    ∃ contract type, event = .remembered ∧
      resolver.calls[number]? = some (.declared contract type) ∧
      next.memory = (resolver.memory.remember contract.className type).2 ∧
      next.calls[number]? = some (.remembering resolver.memory contract type) := by
  have written {call old : Call} (known : resolver.calls[number]? = some old) :
      (resolver.calls.set number call)[number]? = some call :=
    List.getElem?_set_self (List.getElem?_eq_some_iff.1 known).1
  cases taken with
  | opening request =>
    exact .inl ⟨request, rfl, rfl, List.getElem?_eq_none (Nat.le_refl _), rfl, by simp⟩
  | @reading _ contract missed => exact .inr (.inl ⟨contract, rfl, missed, rfl, written missed⟩)
  | @remembering _ contract type declared =>
    exact .inr (.inr ⟨contract, type, rfl, declared, rfl, written declared⟩)

/-- A call that is over takes no more steps. -/
theorem Step.not_answered (taken : Step resolver number event next) :
    resolver.answered? number = none := by
  rw [Resolver.answered?]
  rcases taken.call_self with ⟨_, _, _, known, _⟩ | ⟨_, _, known, _⟩ | ⟨_, _, _, known, _⟩ <;>
    rw [known] <;> rfl

/-- An answer that is given stays given. -/
theorem Step.answered (taken : Step resolver number event next) {other : Nat}
    {told : Request × Answer} (known : resolver.answered? other = some told) :
    next.answered? other = some told := by
  by_cases same : other = number
  · rw [same, taken.not_answered] at known
    exact nomatch known
  · rw [Resolver.answered?, taken.call_of_ne same]
    exact known

/-- What is remembered once is remembered from then on. -/
theorem Step.get?_memory (taken : Step resolver number event next) {className : String}
    {type : PayloadType} (known : resolver.memory.get? className = some type) :
    next.memory.get? className = some type := by
  rcases taken.call_self with ⟨_, _, _, _, same, _⟩ | ⟨_, _, _, same, _⟩ | ⟨_, _, _, _, same, _⟩
  · rw [same, known]
  · rw [same, known]
  · rw [same, TypeMemory.get?_remember_of_some known]

end Step

/-- What every step keeps is kept by a history. -/
theorem Steps.keeps {holds : Resolver → Prop} {start resolver : Resolver} {moments : List Moment}
    (kept : ∀ {resolver number event next}, Step resolver number event next → holds resolver →
      holds next)
    (history : Steps start moments resolver) (initially : holds start) : holds resolver := by
  induction history with
  | refl => exact initially
  | step prior taken inductionHypothesis => exact kept taken inductionHypothesis

/-- Every moment of a history is a step, behind a history that starts where the whole one does; and
the rest of the history leads from there to the end. -/
theorem Steps.exists_of_mem {start resolver : Resolver} {moments : List Moment} {moment : Moment}
    (history : Steps start moments resolver) (member : moment ∈ moments) :
    Step moment.before moment.number moment.event moment.after ∧
      (∃ prior, Steps start prior moment.before) ∧
      ∃ later, Steps moment.after later resolver := by
  induction history with
  | refl => exact absurd member List.not_mem_nil
  | step prior taken inductionHypothesis =>
    rcases List.mem_append.1 member with earlier | last
    · obtain ⟨own, before, _, later⟩ := inductionHypothesis earlier
      exact ⟨own, before, _, .step later taken⟩
    · rw [List.mem_singleton.1 last]
      exact ⟨taken, ⟨_, prior⟩, [], .refl⟩

/-! ## What a call has come to -/

/-- What a call can have come to that has looked at a memory. -/
inductive Came (memory : TypeMemory) : Request → Call → Prop where
  | missed {contract : Contract} (unknown : memory.get? contract.className = none) :
      Came memory (.resolve contract) (.missed contract)
  | declared {contract : Contract} {type : PayloadType}
      (unknown : memory.get? contract.className = none)
      (declares : contract.payloadType = .ok type) :
      Came memory (.resolve contract) (.declared contract type)
  | refused {contract : Contract} {cause : TypeRefusal}
      (unknown : memory.get? contract.className = none)
      (refuses : contract.payloadType = .error cause) :
      Came memory (.resolve contract)
        (.answered (.resolve contract) (.resolved (.error (.unsupportedPayloadType cause))))
  | resolved (contract : Contract) (type : PayloadType) :
      Came memory (.resolve contract) (.answered (.resolve contract) (.resolved (.ok type)))
  | cached (className : String) :
      Came memory (.cached className)
        (.answered (.cached className) (.cached (memory.get? className)))
  | count : Came memory .count (.answered .count (.count memory.length))

namespace Came

variable {memory : TypeMemory} {request : Request} {contract : Contract} {type : PayloadType}

/-- A call has come to one of these by its look. -/
theorem opening (memory : TypeMemory) (request : Request) :
    Came memory request (.opening memory request) := by
  cases request with
  | resolve contract =>
    cases found : memory.get? contract.className with
    | some known => simpa only [Call.opening, found] using Came.resolved contract known
    | none => simpa only [Call.opening, found] using Came.missed found
  | cached className => exact .cached className
  | count => exact .count

/-- Reading the contract leads from one of these to another. -/
theorem reading (came : Came memory request (.missed contract)) :
    Came memory request (.reading contract) := by
  cases came with
  | missed unknown =>
    cases declares : contract.payloadType with
    | ok type => simpa only [Call.reading, declares] using Came.declared unknown declares
    | error cause => simpa only [Call.reading, declares] using Came.refused unknown declares

/-- And so does remembering its type, whatever is remembered by then. -/
theorem remembering (came : Came memory request (.declared contract type)) (now : TypeMemory) :
    Came memory request (.remembering now contract type) := by
  cases came with
  | declared unknown declares => exact .resolved contract _

end Came

/-- Every call was opened at some moment, and has come to what its look allows. -/
theorem Steps.came {moments : List Moment} {resolver : Resolver}
    (history : Steps {} moments resolver) {number : Nat} {call : Call}
    (known : resolver.calls[number]? = some call) :
    ∃ moment ∈ moments, ∃ request, moment.number = number ∧ moment.event = .opened request ∧
      Came moment.before.memory request call := by
  induction history generalizing call with
  | refl => exact nomatch known
  | @step moments resolver next stepping event prior taken inductionHypothesis =>
    -- What an earlier moment accounts for is accounted for by the same moment afterwards.
    have earlier {old : Call} (was : resolver.calls[number]? = some old)
        (leads : ∀ {memory request}, Came memory request old → Came memory request call) :
        ∃ moment ∈ moments ++ [⟨resolver, stepping, event, next⟩], ∃ request,
          moment.number = number ∧ moment.event = .opened request ∧
            Came moment.before.memory request call := by
      obtain ⟨moment, member, request, own, opened, came⟩ := inductionHypothesis was
      exact ⟨moment, List.mem_append_left _ member, request, own, opened, leads came⟩
    by_cases same : number = stepping
    · subst same
      rcases taken.call_self with ⟨request, opened, _, _, _, now⟩ | ⟨contract, _, was, _, now⟩ |
        ⟨contract, type, _, was, _, now⟩
      · cases now.symm.trans known
        exact ⟨_, List.mem_append_right _ (List.mem_singleton_self _), request, rfl, opened,
          .opening _ _⟩
      · cases now.symm.trans known
        exact earlier was Came.reading
      · cases now.symm.trans known
        exact earlier was fun came => came.remembering _
    · exact earlier ((taken.call_of_ne same).symm.trans known) id

/-- A call that has found a type in its contract has found it there. -/
theorem Steps.declares {moments : List Moment} {resolver : Resolver}
    (history : Steps {} moments resolver) {number : Nat} {contract : Contract} {type : PayloadType}
    (known : resolver.calls[number]? = some (.declared contract type)) :
    contract.payloadType = .ok type := by
  obtain ⟨_, _, _, _, _, came⟩ := history.came known
  cases came with
  | declared unknown declares => exact declares

/-- Only a call that is answered with a type changes what is remembered, and it is answered by the
same step. -/
theorem Step.memory_eq {resolver next : Resolver} {number : Nat} {event : Event}
    (taken : Step resolver number event next) : next.memory = resolver.memory ∨
      ∃ contract type,
        next.answered? number = some (.resolve contract, .resolved (.ok type)) := by
  rcases taken.call_self with ⟨_, _, _, _, same, _⟩ | ⟨_, _, _, same, _⟩ |
    ⟨contract, type, _, _, _, now⟩
  · exact .inl same
  · exact .inl same
  · right
    refine ⟨contract, (resolver.memory.remember contract.className type).1, ?_⟩
    rw [Resolver.answered?, now]
    rfl

/-- A call that no other comes between is answered at once, as the memory serves it. -/
theorem exists_steps_serve (resolver : Resolver) (request : Request) :
    ∃ moments next, Steps resolver moments next ∧
      next.memory = (serve resolver.memory request).2 ∧
      next.answered? resolver.calls.length = some (request, (serve resolver.memory request).1) := by
  have opened := (Steps.refl : Steps resolver [] resolver).step (.opening request)
  cases request with
  | cached className => exact ⟨_, _, opened, rfl, by simp [Resolver.answered?]; rfl⟩
  | count => exact ⟨_, _, opened, rfl, by simp [Resolver.answered?]; rfl⟩
  | resolve contract =>
    cases found : resolver.memory.get? contract.className with
    | some known =>
      refine ⟨_, _, opened, ?_, ?_⟩ <;>
        simp [serve, TypeMemory.resolve_of_known found, Resolver.answered?, Call.opening, found,
          Call.answered?]
    | none =>
      simp only [Call.opening, found] at opened
      have read := opened.step (.reading List.getElem?_concat_length)
      cases declares : contract.payloadType with
      | error cause =>
        refine ⟨_, _, read, ?_, ?_⟩ <;>
          simp [serve, TypeMemory.resolve_of_refused found declares, Resolver.answered?,
            Call.reading, declares, Call.answered?]
      | ok type =>
        simp only [Call.reading, declares] at read
        have declared : ((resolver.calls ++ [Call.missed contract]).set resolver.calls.length
            (.declared contract type))[resolver.calls.length]? =
              some (.declared contract type) := by simp
        refine ⟨_, _, read.step (.remembering declared), ?_, ?_⟩ <;>
          simp [serve, TypeMemory.resolve_of_payloadType _ declares, Resolver.answered?,
            Call.remembering, Call.answered?]

end Resolution

end SoapDispatch
