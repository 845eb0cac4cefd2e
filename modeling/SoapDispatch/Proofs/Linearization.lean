import SoapDispatch.Proofs.Resolution

/-!
# Calls in order

What any calls on one memory of payload types are answered, whatever their steps come between, is
what they would be answered one after the other. `InTurn` states what that is, and most of what a
caller can rely on is proved of it, where nothing comes between.

`Linear` leads there. The order is the one in which the answers become settled: a step settles at
most the answer of its own call, and that answer is then what the memory serves at that moment.
-/

namespace SoapDispatch.Resolution

/-! ## One call after the other -/

variable {memory : TypeMemory} {request : Request} {className : String} {type : PayloadType}

/-- All that serving a request does: it leaves the memory alone, or it remembers the type that a
contract declares for a class that was not known. -/
theorem serve_cases (memory : TypeMemory) (request : Request) :
    (serve memory request).2 = memory ∨
      ∃ contract type, request = .resolve contract ∧ memory.get? contract.className = none ∧
        contract.payloadType = .ok type ∧
        serve memory request =
          (.resolved (.ok type), Dictionary.insert contract.className type memory) := by
  cases request with
  | cached className => exact .inl rfl
  | count => exact .inl rfl
  | resolve contract =>
    cases found : memory.get? contract.className with
    | some known => exact .inl (by rw [serve, TypeMemory.resolve_of_known found])
    | none =>
      cases declares : contract.payloadType with
      | error cause => exact .inl (by rw [serve, TypeMemory.resolve_of_refused found declares])
      | ok type =>
        refine .inr ⟨contract, type, rfl, found, declares, ?_⟩
        rw [serve, TypeMemory.resolve_of_payloadType memory declares,
          TypeMemory.remember_of_unknown found]

/-- What is known stays known as it is. -/
theorem get?_serve_of_some (request : Request) (known : memory.get? className = some type) :
    (serve memory request).2.get? className = some type := by
  rcases serve_cases memory request with same | ⟨contract, declared, rfl, unknown, _, served⟩
  · rw [same, known]
  · have distinct : className ≠ contract.className := by
      rintro rfl
      exact nomatch unknown.symm.trans known
    rw [served, Dictionary.get?_insert_of_ne distinct, known]

/-- A type that a contract is resolved to is the one that is remembered for its class. -/
theorem get?_serve_of_resolved {contract : Contract}
    (resolved : (serve memory (.resolve contract)).1 = .resolved (.ok type)) :
    (serve memory (.resolve contract)).2.get? contract.className = some type := by
  simp only [serve, Answer.resolved.injEq] at resolved ⊢
  cases found : memory.get? contract.className with
  | some known =>
    rw [TypeMemory.resolve_of_known found] at resolved ⊢
    rw [found, Except.ok.inj resolved]
  | none =>
    cases declares : contract.payloadType with
    | error cause =>
      rw [TypeMemory.resolve_of_refused found declares] at resolved
      cases resolved
    | ok declared =>
      rw [TypeMemory.resolve_of_payloadType memory declares] at resolved ⊢
      rw [TypeMemory.get?_remember_self, Except.ok.inj resolved]

/-- Calls that are served one after the other, where `replies` gives what the call of a number asks
and is answered, and what is remembered in the end. -/
inductive InTurn (replies : Nat → Option (Request × Answer)) : List Nat → TypeMemory → Prop where
  | nil : InTurn replies [] []
  | next {order : List Nat} {memory : TypeMemory} {number : Nat} {request : Request}
      (earlier : InTurn replies order memory)
      (told : replies number = some (request, (serve memory request).1)) :
      InTurn replies (order ++ [number]) (serve memory request).2

namespace InTurn

variable {replies : Nat → Option (Request × Answer)} {order : List Nat}

/-- Calls are served in turn whatever others are replied. -/
theorem mono {others : Nat → Option (Request × Answer)} (inTurn : InTurn replies order memory)
    (kept : ∀ {number told}, replies number = some told → others number = some told) :
    InTurn others order memory := by
  induction inTurn with
  | nil => exact .nil
  | next earlier told inductionHypothesis => exact .next inductionHypothesis (kept told)

/-- A contract is resolved to the type that is remembered for its class in the end. -/
theorem known (inTurn : InTurn replies order memory) {number : Nat} {contract : Contract}
    (member : number ∈ order)
    (resolved : replies number = some (.resolve contract, .resolved (.ok type))) :
    memory.get? contract.className = some type := by
  induction inTurn with
  | nil => exact absurd member List.not_mem_nil
  | @next order memory last request earlier told inductionHypothesis =>
    rcases List.mem_append.1 member with before | isLast
    · exact get?_serve_of_some request (inductionHypothesis before)
    · rw [List.mem_singleton.1 isLast, told, Option.some.injEq, Prod.mk.injEq] at resolved
      obtain ⟨rfl, answer⟩ := resolved
      exact get?_serve_of_resolved answer

/-- What is remembered in the end is what the contract of some resolved call declares. -/
theorem exists_declaring (inTurn : InTurn replies order memory)
    (known : memory.get? className = some type) :
    ∃ number ∈ order, ∃ contract, replies number = some (.resolve contract, .resolved (.ok type)) ∧
      contract.className = className ∧ contract.payloadType = .ok type := by
  induction inTurn with
  | nil => exact nomatch known
  | @next order memory last request earlier told inductionHypothesis =>
    by_cases before : memory.get? className = some type
    · obtain ⟨number, member, rest⟩ := inductionHypothesis before
      exact ⟨number, List.mem_append_left _ member, rest⟩
    · rcases serve_cases memory request with same | ⟨contract, declared, rfl, _, declares, served⟩
      · exact absurd (same ▸ known) before
      · rw [served] at known told
        by_cases same : className = contract.className
        · subst same
          rw [Dictionary.get?_insert_self, Option.some.injEq] at known
          subst known
          exact ⟨last, List.mem_append_right _ (List.mem_singleton_self _), contract, told, rfl,
            declares⟩
        · rw [Dictionary.get?_insert_of_ne same] at known
          exact absurd known before

/-- No class is remembered twice. -/
theorem nodup_keys (inTurn : InTurn replies order memory) : (memory.map Prod.fst).Nodup := by
  induction inTurn with
  | nil => exact List.nodup_nil
  | @next order memory last request earlier told inductionHypothesis =>
    rcases serve_cases memory request with same | ⟨contract, declared, rfl, unknown, _, served⟩
    · rwa [same]
    · rw [served]
      refine Dictionary.nodup_keys_insert (fun member => ?_) inductionHypothesis declared
      rw [Dictionary.mem_keys_iff, unknown] at member
      exact nomatch member

end InTurn

/-! ## The order in which the answers are settled -/

section Step

variable {resolver next : Resolver} {number : Nat} {event : Event}

/-- The look at the memory settles an answer only if the memory serves that answer and is left
alone. -/
theorem Call.settled?_opening (memory : TypeMemory) (request : Request) :
    (opening memory request).settled? = none ∨
      (opening memory request).settled? = some (request, (serve memory request).1) ∧
        (serve memory request).2 = memory := by
  cases request with
  | cached className => exact .inr ⟨rfl, rfl⟩
  | count => exact .inr ⟨rfl, rfl⟩
  | resolve contract =>
    cases found : memory.get? contract.className with
    | some known =>
      simp [opening, found, settled?, serve, TypeMemory.resolve_of_known found]
    | none =>
      cases declares : contract.payloadType with
      | ok type =>
        exact .inl (by simp only [opening, found, settled?, reading, declares, answered?])
      | error cause =>
        simp [opening, found, settled?, reading, declares, answered?, serve,
          TypeMemory.resolve_of_refused found declares]

/-- Reading the contract settles nothing that was not settled before. -/
theorem Call.settled?_reading (contract : Contract) :
    (reading contract).settled? = (missed contract).settled? := by
  cases declares : contract.payloadType <;> simp only [reading, declares, settled?, answered?]

/-- A step settles no answer and leaves the memory alone, or it settles the answer of its own call,
which is then what the memory serves. -/
theorem Step.settles (taken : Step resolver number event next)
    (declares : ∀ {contract type}, resolver.calls[number]? = some (.declared contract type) →
      contract.payloadType = .ok type) :
    (next.memory = resolver.memory ∧ next.settled? number = resolver.settled? number) ∨
      (resolver.settled? number = none ∧
        ∃ request, next.memory = (serve resolver.memory request).2 ∧
          next.settled? number = some (request, (serve resolver.memory request).1)) := by
  simp only [Resolver.settled?]
  rcases taken.call_self with ⟨request, _, _, was, memory, now⟩ | ⟨contract, _, was, memory, now⟩ |
    ⟨contract, type, _, was, memory, now⟩
  · rw [was, now, memory]
    rcases Call.settled?_opening resolver.memory request with unsettled | ⟨settled, same⟩
    · exact .inl ⟨rfl, unsettled⟩
    · exact .inr ⟨rfl, request, same.symm, settled⟩
  · rw [was, now]
    exact .inl ⟨memory, Call.settled?_reading contract⟩
  · rw [was, now, memory]
    right
    refine ⟨rfl, .resolve contract, ?_⟩
    rw [serve, TypeMemory.resolve_of_payloadType resolver.memory (declares was)]
    exact ⟨rfl, rfl⟩

/-- A step settles no answer of another call. -/
theorem Step.settled?_of_ne (taken : Step resolver number event next) {other : Nat}
    (distinct : other ≠ number) : next.settled? other = resolver.settled? other := by
  rw [Resolver.settled?, taken.call_of_ne distinct, Resolver.settled?]

end Step

/-- The calls whose answers are settled, in an order in which they are served in turn. -/
structure Linear (resolver : Resolver) (order : List Nat) : Prop where
  inTurn : InTurn resolver.settled? order resolver.memory
  nodup : order.Nodup
  mem_iff : ∀ number, number ∈ order ↔ (resolver.settled? number).isSome = true

namespace Linear

variable {resolver next : Resolver} {order : List Nat} {number : Nat} {event : Event}

/-- A step puts at most its own call at the end of the order. -/
theorem step (linear : Linear resolver order) (taken : Step resolver number event next)
    (declares : ∀ {contract type}, resolver.calls[number]? = some (.declared contract type) →
      contract.payloadType = .ok type) :
    Linear next order ∨ Linear next (order ++ [number]) := by
  rcases taken.settles declares with ⟨memory, same⟩ | ⟨unsettled, request, memory, settled⟩
  · have kept (other : Nat) : next.settled? other = resolver.settled? other := by
      by_cases own : other = number
      · rw [own, same]
      · exact taken.settled?_of_ne own
    left
    constructor
    · rw [memory]
      exact linear.inTurn.mono fun told => (kept _).trans told
    · exact linear.nodup
    · intro other
      rw [kept, linear.mem_iff]
  · have absent : number ∉ order := by
      rw [linear.mem_iff, unsettled]
      exact nofun
    have kept {other : Nat} {told : Request × Answer} (was : resolver.settled? other = some told) :
        next.settled? other = some told := by
      have distinct : other ≠ number := by
        rintro rfl
        exact nomatch unsettled.symm.trans was
      rw [taken.settled?_of_ne distinct, was]
    right
    constructor
    · rw [memory]
      exact .next (linear.inTurn.mono kept) settled
    · refine List.nodup_append.2 ⟨linear.nodup, by simp, ?_⟩
      rintro early member late isLast rfl
      exact absent (List.mem_singleton.1 isLast ▸ member)
    · intro other
      rw [List.mem_append, List.mem_singleton, linear.mem_iff]
      by_cases own : other = number
      · simp [own, settled]
      · simp [own, taken.settled?_of_ne own]

/-- A history puts its calls in an order that begins, at every moment, with the calls that were
settled before it. -/
theorem of_steps {moments : List Moment} (history : Steps {} moments resolver) :
    ∃ order, Linear resolver order ∧
      ∀ moment ∈ moments, ∃ early later, order = early ++ later ∧ Linear moment.before early := by
  induction history with
  | refl =>
    refine ⟨[], ⟨.nil, List.nodup_nil, ?_⟩, fun _ member => absurd member List.not_mem_nil⟩
    intro number
    simp [Resolver.settled?]
  | @step moments resolver next number event prior taken inductionHypothesis =>
    obtain ⟨order, linear, early⟩ := inductionHypothesis
    have grown (rest : List Nat) (after : Linear next (order ++ rest)) :
        ∃ order, Linear next order ∧
          ∀ moment ∈ moments ++ [⟨resolver, number, event, next⟩],
            ∃ early later, order = early ++ later ∧ Linear moment.before early := by
      refine ⟨order ++ rest, after, ?_⟩
      intro moment member
      rcases List.mem_append.1 member with before | isLast
      · obtain ⟨first, later, rfl, settled⟩ := early moment before
        exact ⟨first, later ++ rest, List.append_assoc .., settled⟩
      · rw [List.mem_singleton.1 isLast]
        exact ⟨order, rest, rfl, linear⟩
    rcases linear.step taken prior.declares with same | more
    · exact grown [] (by rwa [List.append_nil])
    · exact grown [number] more

end Linear

/-! ## The calls that are answered -/

section Answered

variable {resolver : Resolver} {order : List Nat} {moments : List Moment} {number : Nat}

/-- An answer that is given is settled. -/
theorem Resolver.settled?_of_answered {told : Request × Answer}
    (known : resolver.answered? number = some told) : resolver.settled? number = some told := by
  rw [settled?, answered?_eq_some_iff.1 known]
  rfl

/-- An answer that is settled before it is given is a refusal. -/
theorem Resolver.exists_of_settled {told : Request × Answer}
    (settled : resolver.settled? number = some told) (waiting : resolver.answered? number = none) :
    ∃ contract error, told = (.resolve contract, .resolved (.error error)) := by
  rw [settled?, Option.bind_eq_some_iff] at settled
  obtain ⟨call, present, known⟩ := settled
  rw [answered?, present, Option.bind_some] at waiting
  cases call with
  | missed contract =>
    cases declares : contract.payloadType with
    | ok type => simp [Call.settled?, Call.reading, declares, Call.answered?] at known
    | error cause =>
      simp only [Call.settled?, Call.reading, declares, Call.answered?, Option.some.injEq] at known
      exact ⟨contract, _, known.symm⟩
  | declared contract type => cases known
  | answered request answer => cases waiting

/-- The answered calls are still served in turn when the calls that are only bound to be refused are
left out. -/
theorem InTurn.answered (inTurn : InTurn resolver.settled? order memory) :
    InTurn resolver.answered? (order.filter fun number => (resolver.answered? number).isSome)
      memory := by
  induction inTurn with
  | nil => exact .nil
  | @next order memory last request earlier told inductionHypothesis =>
    rw [List.filter_append]
    cases answered : resolver.answered? last with
    | some answer =>
      rw [List.filter_cons_of_pos (by rw [answered]; rfl), List.filter_nil]
      refine .next inductionHypothesis ?_
      rw [answered, ← Resolver.settled?_of_answered answered, told]
    | none =>
      rw [List.filter_cons_of_neg (by simp [answered]), List.filter_nil, List.append_nil]
      obtain ⟨contract, error, refused⟩ := Resolver.exists_of_settled told answered
      obtain ⟨rfl, answer⟩ := Prod.mk.inj refused
      have same := TypeMemory.snd_resolve_of_error (Answer.resolved.inj answer)
      rwa [serve, same]

/-- An answer that is given at some moment of a history stays given. -/
theorem Steps.answered_before {start : Resolver} (history : Steps start moments resolver)
    {moment : Moment} (member : moment ∈ moments) {told : Request × Answer}
    (known : moment.before.answered? number = some told) :
    resolver.answered? number = some told := by
  obtain ⟨taken, _, _, later⟩ := history.exists_of_mem member
  exact later.keeps (fun taken => taken.answered) (taken.answered known)

/-- And so does an answer that is given by the end of a moment. -/
theorem Steps.answered_after {start : Resolver} (history : Steps start moments resolver)
    {moment : Moment} (member : moment ∈ moments) {told : Request × Answer}
    (known : moment.after.answered? number = some told) :
    resolver.answered? number = some told := by
  obtain ⟨_, _, _, later⟩ := history.exists_of_mem member
  exact later.keeps (fun taken => taken.answered) known

/-- The answered calls, in an order in which they could have been made one after the other: each is
answered as the memory serves it, and a call that was made when another was over comes behind it. -/
structure InOrder (moments : List Moment) (resolver : Resolver) (order : List Nat) : Prop where
  nodup : order.Nodup
  mem_iff : ∀ number, number ∈ order ↔ (resolver.answered? number).isSome = true
  inTurn : InTurn resolver.answered? order resolver.memory
  precedes : ∀ moment ∈ moments, ∀ first second,
    (moment.before.answered? first).isSome = true → moment.before.calls.length ≤ second →
      second ∈ order → [first, second].Sublist order

/-- There is such an order for the calls of every history. -/
theorem exists_inOrder (history : Steps {} moments resolver) :
    ∃ order, InOrder moments resolver order := by
  obtain ⟨order, linear, early⟩ := Linear.of_steps history
  refine ⟨order.filter fun number => (resolver.answered? number).isSome, ?_⟩
  constructor
  · exact linear.nodup.sublist List.filter_sublist
  · intro number
    rw [List.mem_filter, linear.mem_iff]
    constructor
    · exact fun both => both.2
    · intro answered
      obtain ⟨told, known⟩ := Option.isSome_iff_exists.1 answered
      exact ⟨by rw [Resolver.settled?_of_answered known]; rfl, answered⟩
  · exact linear.inTurn.answered
  · intro moment member first second finished later among
    obtain ⟨before, rest, rfl, settled⟩ := early moment member
    obtain ⟨told, known⟩ := Option.isSome_iff_exists.1 finished
    have firstBefore : first ∈ before := by
      rw [settled.mem_iff, Resolver.settled?_of_answered known]
      rfl
    have secondNot : second ∉ before := by
      rw [settled.mem_iff, Resolver.settled?, List.getElem?_eq_none later]
      exact nofun
    obtain ⟨inAll, answered⟩ := List.mem_filter.1 among
    have secondAfter : second ∈ rest := (List.mem_append.1 inAll).resolve_left secondNot
    have stays : (resolver.answered? first).isSome = true := by
      rw [history.answered_before member known]
      rfl
    rw [List.filter_append]
    exact (List.singleton_sublist.2 (List.mem_filter.2 ⟨firstBefore, stays⟩)).append
      (List.singleton_sublist.2 (List.mem_filter.2 ⟨secondAfter, answered⟩))

/-- Whether just so many classes have been resolved. -/
def Resolver.Counts (resolver : Resolver) (size : Nat) : Prop :=
  ∃ classes : List String, classes.Nodup ∧ classes.length = size ∧
    ∀ className, className ∈ classes ↔ resolver.Resolved className

/-- As many types are remembered as classes have been resolved. -/
theorem Steps.counts (history : Steps {} moments resolver) :
    resolver.Counts resolver.memory.length := by
  obtain ⟨order, ordered⟩ := exists_inOrder history
  refine ⟨resolver.memory.map Prod.fst, ordered.inTurn.nodup_keys, List.length_map .., ?_⟩
  intro className
  rw [Dictionary.mem_keys_iff]
  constructor
  · intro known
    obtain ⟨type, found⟩ := Option.isSome_iff_exists.1 known
    obtain ⟨number, _, contract, answered, own, _⟩ := ordered.inTurn.exists_declaring found
    exact ⟨number, contract, type, answered, own⟩
  · rintro ⟨number, contract, type, answered, rfl⟩
    have member : number ∈ order := (ordered.mem_iff number).2 (by rw [answered]; rfl)
    rw [ordered.inTurn.known member answered]
    rfl

end Answered

/-- What callers can rely on, whatever steps come between theirs. -/
structure Guarantees (moments : List Moment) (resolver : Resolver) : Prop where
  /-- The calls are answered as if they had been made one after the other. -/
  linearizable : ∃ order, InOrder moments resolver order
  /-- A class that is known is known from then on, and as it is. -/
  writtenOnce : ∀ moment ∈ moments, ∀ className type,
    moment.before.memory.get? className = some type →
      moment.after.memory.get? className = some type ∧
        resolver.memory.get? className = some type
  /-- A contract is resolved to the type that is remembered for its class, which some resolved
  contract of this class declares. -/
  resolved : ∀ number contract type,
    resolver.answered? number = some (.resolve contract, .resolved (.ok type)) →
      resolver.memory.get? contract.className = some type ∧
        ∃ other declaring,
          resolver.answered? other = some (.resolve declaring, .resolved (.ok type)) ∧
            declaring.className = contract.className ∧ declaring.payloadType = .ok type
  /-- A contract is refused only if it declares no type, having no type argument, several, or one
  that is unknown; its class was not known when it looked; and it leaves the memory alone. -/
  refused : ∀ number contract error,
    resolver.answered? number = some (.resolve contract, .resolved (.error error)) →
      (∃ cause, contract.payloadType = .error cause ∧ error = .unsupportedPayloadType cause) ∧
        (contract.typeArguments = [] ∨ 2 ≤ contract.typeArguments.length ∨
          ∃ name, contract.typeArguments = [name] ∧ PayloadType.ofDeclaration? name = none) ∧
        (∃ moment ∈ moments, moment.number = number ∧ moment.event = .opened (.resolve contract) ∧
          moment.before.memory.get? contract.className = none) ∧
        ∀ moment ∈ moments, moment.number = number → moment.after.memory = moment.before.memory
  /-- A count is the number of classes that were resolved when it was asked for. -/
  counted : ∀ number size, resolver.answered? number = some (.count, .count size) →
    ∃ moment ∈ moments, moment.number = number ∧ moment.event = .opened .count ∧
      moment.before.Counts size
  /-- As many types are remembered as classes have been resolved. -/
  counts : resolver.Counts resolver.memory.length

/-- Whatever calls are made on a memory that is empty at first, and whatever their steps come
between, they can rely on all of this. -/
theorem concurrent_resolution (moments : List Moment) (resolver : Resolver)
    (history : Steps {} moments resolver) : Guarantees moments resolver := by
  obtain ⟨order, ordered⟩ := exists_inOrder history
  -- A call that is answered was opened at some moment, and is what its look allows.
  have opened {number : Nat} {request : Request} {answer : Answer}
      (known : resolver.answered? number = some (request, answer)) :
      ∃ moment ∈ moments, ∃ asked, moment.number = number ∧ moment.event = .opened asked ∧
        Came moment.before.memory asked (.answered request answer) :=
    history.came (Resolver.answered?_eq_some_iff.1 known)
  constructor
  case linearizable => exact ⟨order, ordered⟩
  case writtenOnce =>
    intro moment member className type known
    obtain ⟨taken, _, _, later⟩ := history.exists_of_mem member
    have after := taken.get?_memory known
    exact ⟨after, later.keeps (fun taken => taken.get?_memory) after⟩
  case resolved =>
    intro number contract type answered
    have member : number ∈ order := (ordered.mem_iff number).2 (by rw [answered]; rfl)
    have known := ordered.inTurn.known member answered
    obtain ⟨other, _, declaring, resolved, own, declares⟩ := ordered.inTurn.exists_declaring known
    exact ⟨known, other, declaring, resolved, own, declares⟩
  case refused =>
    intro number contract error answered
    obtain ⟨moment, member, asked, own, event, came⟩ := opened answered
    cases came with
    | @refused _ cause unknown refuses =>
      refine ⟨⟨cause, refuses, rfl⟩, Contract.typeArguments_of_refused refuses,
        ⟨moment, member, own, event, unknown⟩, ?_⟩
      rintro other among rfl
      obtain ⟨taken, _⟩ := history.exists_of_mem among
      rcases taken.memory_eq with same | ⟨_, _, resolved⟩
      · exact same
      · exact nomatch (history.answered_after among resolved).symm.trans answered
  case counted =>
    intro number size answered
    obtain ⟨moment, member, asked, own, event, came⟩ := opened answered
    obtain ⟨_, ⟨_, prior⟩, _⟩ := history.exists_of_mem member
    cases came with
    | count => exact ⟨moment, member, own, event, prior.counts⟩
  case counts => exact history.counts

/-- Two contracts declare different types for one class, a third declares none, and all look before
anything is remembered. The second remembers its type first, and the first is resolved to it. -/
theorem concurrent_resolution_conflict :
    ∃ moments resolver, Steps {} moments resolver ∧ Guarantees moments resolver ∧
      resolver.calls = [
        .answered (.resolve ⟨"Echo", ["text"]⟩) (.resolved (.ok .source)),
        .answered (.resolve ⟨"Echo", ["source"]⟩) (.resolved (.ok .source)),
        .answered (.resolve ⟨"Echo", []⟩)
          (.resolved (.error (.unsupportedPayloadType (.notParameterized "Echo")))),
        .answered .count (.count 1)] := by
  have looked : Steps {} _ { calls := [.missed ⟨"Echo", ["text"]⟩, .missed ⟨"Echo", ["source"]⟩,
      .missed ⟨"Echo", []⟩] } :=
    ((Steps.refl.step (.opening (.resolve ⟨"Echo", ["text"]⟩))).step
      (.opening (.resolve ⟨"Echo", ["source"]⟩))).step (.opening (.resolve ⟨"Echo", []⟩))
  have text : PayloadType.ofDeclaration? "text" = some .text := by decide +kernel
  have source : PayloadType.ofDeclaration? "source" = some .source := by decide +kernel
  have read := (looked.step (@Step.reading _ 0 _ rfl)).step (@Step.reading _ 1 _ rfl)
  simp only [Call.reading, Contract.payloadType, text, source, List.set_cons_zero,
    List.set_cons_succ] at read
  have remembered :=
    (read.step (@Step.remembering _ 1 _ _ rfl)).step (@Step.remembering _ 0 _ _ rfl)
  have history := (remembered.step (@Step.reading _ 2 _ rfl)).step (.opening .count)
  exact ⟨_, _, history, concurrent_resolution _ _ history, rfl⟩

end SoapDispatch.Resolution
