import SoapDispatch.Proofs.Delivery
import SoapDispatch.Proofs.Records

/-!
# Sessions as histories

A session does its operations one after the other, and runs a unit in one go. It is a special floor:
every list of operations has a history of the same effect, in which a unit that is run takes its
steps with nothing in between. What holds after every history so holds of sessions. The invariant
behind this is `Floor.Follows`.
-/

namespace SoapDispatch.Dispatch

open SoapDispatch.Soap

/-- Something that is done with a session. -/
inductive Operation where
  | defer (call : Call)
  | cancel (task : Nat)
  | runNext
  | register (role : String) (executor : Executor)

/-- Something that is done without a panic of supplied code. -/
def Operation.Quiet : Operation → Prop
  | .defer call => call.Quiet
  | _ => True

namespace Session

/-- Does one thing with a session. -/
def operate (session : Session) : Operation → Session
  | .defer call => (session.defer call).2
  | .cancel task => (session.cancel task).2
  | .runNext => session.runNext.2
  | .register role executor => session.register role executor

/-- Does one thing after the other. -/
def afterwards (session : Session) (operations : List Operation) : Session :=
  operations.foldl operate session

/-- A session before anything is done with it. -/
def opening (memory : TypeMemory) (registry : ExecutorRegistry) (world : World) : Session where
  memory
  workshop := { registry }
  world

end Session

/-- The steps of running a unit. -/
def Action.run (thread : Thread) (task : Nat) : List Action :=
  .take task :: List.replicate 3 (.advance thread task)

/-- The steps of one operation of a session. An executor that runs units at once goes through all
steps of a run. -/
def Session.steps (session : Session) : Operation → List Action
  | .defer call =>
    .invoke call ::
      match (session.prepareDeferred call.dispatcher call.request).1 with
      | .ok (_, .inline) => Action.run .caller session.workshop.tasks.nextNumber
      | .ok (_, .pooled) => Action.run .other session.workshop.tasks.nextNumber
      | _ => []
  | .cancel task => [.cancel task]
  | .runNext => session.workshop.queue.head?.elim [] fun unit => Action.run .caller unit.task
  | .register role executor =>
    [.disturb session.memory (session.workshop.registry.register role executor) session.world.ids]

/-- The steps of some operations of a session. -/
def Session.history (session : Session) : List Operation → List Action
  | [] => []
  | operation :: rest => session.steps operation ++ (session.operate operation).history rest

/-- What a deferred invocation is prepared as is how it is admitted. -/
theorem Session.fst_prepareDeferred (session : Session) (call : Call) :
    (session.prepareDeferred call.dispatcher call.request).1 = session.admission call := by
  rw [prepareDeferred_eq]
  rfl

/-- The history of some operations goes on with that of the ones after them. -/
theorem Session.history_append (session : Session) (first second : List Operation) :
    session.history (first ++ second) =
      session.history first ++ (session.afterwards first).history second := by
  induction first generalizing session with
  | nil => rfl
  | cons operation rest inductionHypothesis =>
    rw [List.cons_append, history, inductionHypothesis, history, List.append_assoc]
    rfl

section Quiet

variable (session : Session)

/-- The steps of running a unit are quiet. -/
theorem Action.quiet_run {thread : Thread} {task : Nat} : ∀ action ∈ Action.run thread task,
    action.Quiet := by
  simp [Action.run, Action.Quiet]

/-- The steps of an operation are as quiet as it is. -/
theorem Session.quiet_steps {operation : Operation} (quiet : operation.Quiet) :
    ∀ action ∈ session.steps operation, action.Quiet := by
  cases operation with
  | defer call =>
    refine List.forall_mem_cons.2 ⟨quiet, ?_⟩
    split
    · exact Action.quiet_run
    · exact Action.quiet_run
    · simp
  | runNext =>
    simp only [steps]
    cases session.workshop.queue.head? with
    | none => simp
    | some unit => exact Action.quiet_run
  | cancel task => simp [steps, Action.Quiet]
  | register role executor => simp [steps, Action.Quiet]

/-- The history of operations is as quiet as they are. -/
theorem Session.quiet_history {operations : List Operation}
    (quiet : ∀ operation ∈ operations, operation.Quiet) :
    ∀ action ∈ session.history operations, action.Quiet := by
  induction operations generalizing session with
  | nil => simp [history]
  | cons operation rest inductionHypothesis =>
    obtain ⟨calm, calmRest⟩ := List.forall_mem_cons.1 quiet
    exact List.forall_mem_append.2 ⟨session.quiet_steps calm, inductionHypothesis _ calmRest⟩

end Quiet

/-- Whether the unit of an invocation is not being run. -/
def Phase.Resting : Phase → Prop
  | .begun _ | .called _ _ | .told _ => False
  | .refused | .waiting _ | .spent => True

/-- Puts a queue in place of the session's. -/
def Session.withQueue (session : Session) (queue : List (WorkUnit Deferred)) : Session :=
  { session with workshop := { session.workshop with queue } }

namespace Floor

variable {floor : Floor} {task : Nat} {job : Deferred}

/-- A unit that has begun does its work and ends its task in three steps. -/
theorem after_begun (thread : Thread) (phase : floor.phases[task]? = some (.begun job)) :
    let reached := floor.after (List.replicate 3 (.advance thread task))
    let (outcome, world) := Deferred.perform thread ⟨task, job⟩ floor.session.world
    reached.session =
        ((floor.withWorld world).withTasks (floor.tasks.finish task outcome)).session ∧
      reached.phases = floor.phases.set task .spent := by
  have inside : task < floor.phases.length := (List.getElem?_eq_some_iff.1 phase).1
  let result := (floor.session.world.call thread job.dispatcher.provider job.invocation.input).1
  have called : (floor.callProvider thread task job).phases[task]? = some (.called job result) := by
    simp [callProvider, inside, result]
  have told : ((floor.callProvider thread task job).tell thread task job result).phases[task]? =
      some (.told (Deferred.perform thread ⟨task, job⟩ floor.session.world).1) := by
    simp [tell, callProvider, inside, Deferred.perform_eq, withWorld, move, write, result]
  simp only [List.replicate, after_cons, after_nil, act, floor.advance_of_begun thread phase,
    advance_of_called _ thread called, advance_of_told _ thread told, Deferred.perform_eq]
  exact ⟨rfl, by simp [finish, tell, callProvider]⟩

/-- The steps of running a unit have the effect of running it. -/
theorem after_run (thread : Thread) (phase : floor.phases[task]? = some (.waiting job)) :
    (floor.after (Action.run thread task)).session = floor.session.ran thread ⟨task, job⟩ ∧
      (floor.after (Action.run thread task)).phases = floor.phases.set task .spent := by
  have inside : task < floor.phases.length := (List.getElem?_eq_some_iff.1 phase).1
  rcases begins : floor.tasks.begin task with ⟨_ | _, tasks⟩
  · have taken := floor.take_of_stays phase begins
    have spent : (floor.take task).phases[task]? = some .spent := by simp [taken, inside]
    have resting : (floor.take task).advance thread task = floor.take task :=
      advance_of_resting _ _ (by simp [spent]) (by simp [spent]) (by simp [spent])
    have undone : floor.session.ran thread ⟨task, job⟩ = floor.session :=
      Session.ran_of_stays begins
    simp only [Action.run, List.replicate, after_cons, after_nil, act, resting]
    rw [taken, undone]
    exact ⟨rfl, rfl⟩
  · have taken := floor.take_of_begins phase begins
    have begun : (floor.take task).phases[task]? = some (.begun job) := by simp [taken, inside]
    have done : floor.session.ran thread ⟨task, job⟩ = _ := Session.ran_of_begins begins
    obtain ⟨session, phases⟩ := after_begun thread begun
    rw [Action.run, after_cons, act, session, phases, taken, done]
    exact ⟨rfl, by simp⟩

/-- A unit that is run while its task waits has been run before any cancellation, and its run is
over. -/
theorem runOut_run (thread : Thread) (phase : floor.phases[task]? = some (.waiting job))
    (pending : floor.tasks.status? task = some .pending)
    (uncancelled : .cancelled ∉ floor.course task) :
    ((floor.after (Action.run thread task)).view task).RunOut := by
  have inside : task < floor.phases.length := (List.getElem?_eq_some_iff.1 phase).1
  obtain ⟨_, _, taken⟩ := (floor.take task).view_eq_iff.1 (floor.view_take_of_pending phase pending)
  obtain ⟨later, course⟩ := (floor.take task).course_after task
    (List.replicate 3 (.advance thread task))
  rw [taken, List.append_assoc] at course
  refine ⟨⟨_, later, course.symm, uncancelled⟩, ?_⟩
  show (floor.after (Action.run thread task)).phases[task]? = some .spent
  rw [(after_run thread phase).2, List.getElem?_set_self inside]

/-- The floor does what the session does: no run is under way on it, and the units that wait are
those in the queue of the session, each of them once. -/
structure Follows (floor : Floor) (session : Session) : Prop where
  memory : floor.session.memory = session.memory
  world : floor.session.world = session.world
  tasks : floor.session.workshop.tasks = session.workshop.tasks
  registry : floor.session.workshop.registry = session.workshop.registry
  resting : ∀ phase ∈ floor.phases, phase.Resting
  waiting : ∀ unit : WorkUnit Deferred, unit ∈ session.workshop.queue ↔
    floor.phases[unit.task]? = some (.waiting unit.job)
  distinct : (session.workshop.queue.map WorkUnit.task).Nodup

namespace Follows

variable {session : Session} {unit : WorkUnit Deferred} {call : Call}

theorem opening (memory : TypeMemory) (registry : ExecutorRegistry) (world : World) :
    (Floor.opening memory registry world).Follows (Session.opening memory registry world) := by
  constructor
  case resting => simp [Floor.opening]
  case waiting => simp [Floor.opening, Session.opening]
  case distinct => simp [Session.opening]
  all_goals rfl

/-- An invocation is prepared on the floor like in the session. -/
theorem admission (follows : floor.Follows session) :
    floor.session.admission call = session.admission call := by
  rw [Session.admission, Session.admission, follows.memory, follows.registry]

/-- The next task has the number of the next phase. -/
theorem nextNumber (follows : floor.Follows session) (aligned : floor.Aligned) :
    session.workshop.tasks.nextNumber = floor.phases.length :=
  (aligned.phases.trans (congrArg List.length follows.tasks)).symm

/-- The units that wait have phases. -/
theorem lt_of_mem (follows : floor.Follows session) (member : unit ∈ session.workshop.queue) :
    unit.task < floor.phases.length :=
  (List.getElem?_eq_some_iff.1 ((follows.waiting unit).1 member)).1

section Used

variable {earlier later : List (WorkUnit Deferred)}

/-- Once a unit of the queue is used up, the others wait, each of them once. -/
theorem waiting_used (follows : floor.Follows (session.withQueue (earlier ++ unit :: later))) :
    (∀ other : WorkUnit Deferred, other ∈ earlier ++ later ↔
      (floor.phases.set unit.task .spent)[other.task]? = some (.waiting other.job)) ∧
    ((earlier ++ later).map WorkUnit.task).Nodup := by
  have perm : (earlier ++ unit :: later).Perm (unit :: (earlier ++ later)) := List.perm_middle
  have distinct := (perm.map WorkUnit.task).nodup_iff.1 follows.distinct
  rw [List.map_cons, List.nodup_cons] at distinct
  refine ⟨fun other => ?_, distinct.2⟩
  by_cases same : unit.task = other.task
  · -- The unit is used up, and no other one has its number.
    have absent : other ∉ earlier ++ later := fun member =>
      distinct.1 (same ▸ List.mem_map_of_mem member)
    have inside : unit.task < floor.phases.length :=
      follows.lt_of_mem (List.mem_append_right _ List.mem_cons_self)
    refine iff_of_false absent fun found => ?_
    rw [← same, List.getElem?_set_self inside] at found
    exact nomatch found
  · have others : other ∈ earlier ++ unit :: later ↔ other ∈ earlier ++ later := by
      rw [perm.mem_iff, List.mem_cons, or_iff_right]
      rintro rfl
      exact same rfl
    rw [List.getElem?_set_ne same, ← others]
    exact follows.waiting other

/-- Running a unit that waits keeps the floor to the session that runs it, in whatever place of the
queue it was. -/
theorem ran (follows : floor.Follows (session.withQueue (earlier ++ unit :: later)))
    (thread : Thread) :
    (floor.after (Action.run thread unit.task)).Follows
      ((session.withQueue (earlier ++ later)).ran thread unit) := by
  have phase := (follows.waiting unit).1 (List.mem_append_right _ List.mem_cons_self)
  obtain ⟨effect, phases⟩ := after_run thread phase
  obtain ⟨waiting, distinct⟩ := follows.waiting_used
  have resting : ∀ other ∈ floor.phases.set unit.task .spent, other.Resting := by
    intro other member
    rcases List.mem_or_eq_of_mem_set member with before | rfl
    · exact follows.resting other before
    · trivial
  rw [← phases] at waiting resting
  rcases begins : (session.withQueue (earlier ++ later)).workshop.tasks.begin unit.task with
    ⟨_ | _, tasks⟩
  · have floorBegins := (congrArg (TaskTable.begin · unit.task) follows.tasks).trans begins
    rw [Session.ran_of_stays floorBegins] at effect
    rw [Session.ran_of_stays begins]
    exact ⟨effect ▸ follows.memory, effect ▸ follows.world, effect ▸ follows.tasks,
      effect ▸ follows.registry, resting, waiting, distinct⟩
  · have floorBegins := (congrArg (TaskTable.begin · unit.task) follows.tasks).trans begins
    rw [Session.ran_of_begins floorBegins, follows.world] at effect
    rw [Session.ran_of_begins begins]
    constructor
    case resting => exact resting
    case waiting => exact waiting
    case distinct => exact distinct
    case memory => rw [effect]; exact follows.memory
    case registry => rw [effect]; exact follows.registry
    all_goals rw [effect]; rfl

end Used

/-- A new invocation leaves the units where they wait, and has a unit of its own if its phase is
that of one that waits. -/
theorem waiting_append (follows : floor.Follows session) (phase : Phase)
    (unit : WorkUnit Deferred) :
    (floor.phases ++ [phase])[unit.task]? = some (.waiting unit.job) ↔
      unit ∈ session.workshop.queue ∨
        unit.task = floor.phases.length ∧ phase = .waiting unit.job := by
  rw [follows.waiting unit]
  rcases Nat.lt_trichotomy unit.task floor.phases.length with below | same | above
  · rw [List.getElem?_append_left below, or_iff_left]
    exact fun new => Nat.ne_of_lt below new.1
  · simp [same]
  · have beyond : (floor.phases ++ [phase]).length ≤ unit.task := by
      rw [List.length_append]
      exact above
    rw [List.getElem?_eq_none beyond, List.getElem?_eq_none (Nat.le_of_lt above)]
    simp [Nat.ne_of_gt above]

/-- No run is under way when an invocation has just been made. -/
theorem resting_append (follows : floor.Follows session) {phase : Phase} (rests : phase.Resting) :
    ∀ other ∈ floor.phases ++ [phase], other.Resting :=
  List.forall_mem_append.2 ⟨follows.resting, List.forall_mem_singleton.2 rests⟩

/-- The floor keeps to a session in which an invocation is refused. -/
theorem refuse (follows : floor.Follows session) (quiet : call.Quiet) {failure : Failure}
    (refused : session.admission call = .error failure) :
    (floor.invoke call).Follows (session.refuse call failure) := by
  rw [invoke_of_refused quiet (follows.admission.trans refused)]
  exact {
    memory := congrArg (fun memory : TypeMemory =>
      (memory.resolve call.dispatcher.provider.contract).2) follows.memory
    world := congrArg (fun world => (call.tellRefusal failure world).2) follows.world
    tasks := congrArg (TaskTable.add · _) follows.tasks
    registry := follows.registry
    resting := follows.resting_append trivial
    waiting := fun unit =>
      ((follows.waiting_append .refused unit).trans (or_iff_left (by simp))).symm
    distinct := follows.distinct }

/-- The floor keeps to a session in which an invocation is admitted, and its unit is put in the
queue. -/
theorem accept (follows : floor.Follows session) (aligned : floor.Aligned)
    {invocation : Invocation} {executor : Executor}
    (admitted : session.admission call = .ok (invocation, executor)) :
    (floor.invoke call).Follows ((session.accept call).withQueue (session.workshop.queue ++
      [⟨session.workshop.tasks.nextNumber, call.job invocation⟩])) := by
  rw [invoke_of_admitted (follows.admission.trans admitted)]
  exact {
    memory := congrArg (fun memory : TypeMemory =>
      (memory.resolve call.dispatcher.provider.contract).2) follows.memory
    world := follows.world
    tasks := congrArg (TaskTable.add · _) follows.tasks
    registry := follows.registry
    resting := follows.resting_append trivial
    waiting := by
      rintro ⟨task, job⟩
      refine Iff.trans ?_ (follows.waiting_append (.waiting (call.job invocation)) ⟨task, job⟩).symm
      simp [Session.withQueue, follows.nextNumber aligned, eq_comm]
    distinct := by
      simp only [Session.withQueue, List.map_append, List.map_cons, List.map_nil]
      refine List.nodup_append.2 ⟨follows.distinct, by simp, ?_⟩
      -- The new task has the number after those of all units that wait.
      intro number earlier other new
      obtain ⟨waiting, member, rfl⟩ := List.mem_map.1 earlier
      rw [List.mem_singleton.1 new, follows.nextNumber aligned]
      exact Nat.ne_of_lt (follows.lt_of_mem member) }

/-- The floor keeps to a session in which a deferred invocation is made. -/
theorem defer (follows : floor.Follows session) (aligned : floor.Aligned) (quiet : call.Quiet) :
    (floor.after (session.steps (.defer call))).Follows (session.defer call).2 := by
  rcases prepared : session.admission call with failure | ⟨invocation, executor⟩
  · rw [Session.defer_of_refused quiet prepared]
    simp only [Session.steps, Session.fst_prepareDeferred, prepared]
    exact follows.refuse quiet prepared
  · rw [Session.defer_of_admitted prepared]
    have accepted := follows.accept aligned prepared
    have atOnce (thread : Thread) := accepted.ran thread
    rw [List.append_nil] at atOnce
    simp only [Session.steps, Session.fst_prepareDeferred, prepared, after_cons, act]
    cases executor with
    | inline => exact atOnce .caller
    | pooled => exact atOnce .other
    | queued => exact accepted

/-- The floor keeps to a session in which a task is cancelled. -/
theorem cancel (follows : floor.Follows session) (task : Nat) :
    (floor.cancel task).Follows (session.cancel task).2 where
  memory := follows.memory
  world := follows.world
  tasks := congrArg (fun tasks => (TaskTable.cancel tasks task).2) follows.tasks
  registry := follows.registry
  resting := follows.resting
  waiting := follows.waiting
  distinct := follows.distinct

/-- The floor keeps to a session in which the next unit is run. -/
theorem runNext (follows : floor.Follows session) :
    (floor.after (session.steps .runNext)).Follows session.runNext.2 := by
  rcases queue : session.workshop.queue with _ | ⟨unit, rest⟩
  · simp only [Session.steps, queue, Session.snd_runNext_of_nil queue]
    exact follows
  · have first : floor.Follows (session.withQueue ([] ++ unit :: rest)) := by
      rw [List.nil_append, ← queue]
      exact follows
    simp only [Session.steps, queue, Session.snd_runNext_of_cons queue, List.head?_cons,
      Option.elim_some]
    exact first.ran .caller

/-- The floor keeps to the session whatever is done with it. -/
theorem operate (follows : floor.Follows session) (aligned : floor.Aligned)
    {operation : Operation} (quiet : operation.Quiet) :
    (floor.after (session.steps operation)).Follows (session.operate operation) := by
  cases operation with
  | defer call => exact follows.defer aligned quiet
  | cancel task => exact follows.cancel task
  | runNext => exact follows.runNext
  | register role executor =>
    exact ⟨rfl, congrArg (fun world : World => { world with ids := session.world.ids })
      follows.world, follows.tasks, rfl, follows.resting, follows.waiting, follows.distinct⟩

/-- The floor keeps to the session after any operations. -/
theorem afterwards (follows : floor.Follows session) (aligned : floor.Aligned)
    {operations : List Operation} (quiet : ∀ operation ∈ operations, operation.Quiet) :
    (floor.after (session.history operations)).Follows (session.afterwards operations) := by
  induction operations generalizing floor session with
  | nil => exact follows
  | cons operation rest inductionHypothesis =>
    obtain ⟨calm, calmRest⟩ := List.forall_mem_cons.1 quiet
    rw [Session.history, after_append]
    exact inductionHypothesis (follows.operate aligned calm)
      (aligned.after (session.quiet_steps calm)) calmRest

/-- A deferred invocation of a session is delivered, and gives the number of its task. -/
theorem delivered (follows : floor.Follows session) (aligned : floor.Aligned)
    (quiet : call.Quiet) {later : List Operation}
    (calm : ∀ operation ∈ later, operation.Quiet) :
    (session.defer call).1 = .ok session.workshop.tasks.nextNumber ∧
      call.Delivered ((session.prepareDeferred call.dispatcher call.request).1.map Prod.fst)
        ((floor.after (session.history (.defer call :: later))).view
          session.workshop.tasks.nextNumber) := by
  constructor
  · rcases prepared : session.admission call with failure | ⟨invocation, executor⟩
    · rw [Session.defer_of_refused quiet prepared]
    · rw [Session.defer_of_admitted prepared]
  · have prepared : (session.prepareDeferred call.dispatcher call.request).1.map Prod.fst =
        floor.prepared call := by
      rw [Session.fst_prepareDeferred, ← follows.admission]
      rfl
    have number : session.workshop.tasks.nextNumber = floor.tasks.nextNumber :=
      congrArg TaskTable.nextNumber follows.tasks.symm
    have calmAll : ∀ operation ∈ .defer call :: later, operation.Quiet :=
      List.forall_mem_cons.2 ⟨quiet, calm⟩
    have calmRest := (List.forall_mem_cons.1 (session.quiet_history calmAll)).2
    rw [prepared, number]
    exact (aligned.standing quiet calmRest).delivered

end Follows

/-- Whatever is done on a floor, an invocation that was made on it is delivered, what is known of it
only leads further, and the record of the session is what is told in the courses. So it is with
every deferred invocation of a session: the floor follows the session through the history of its
operations, where every unit that the caller or an executor runs goes through the steps of a run.
Those steps, taken on any floor with nothing in between, do what running the unit does. -/
theorem deferred_delivery (memory : TypeMemory) (registry : ExecutorRegistry) (world : World) :
    (∀ (before later further : List Action) (call : Call), call.Quiet →
      (∀ action ∈ before ++ later ++ further, action.Quiet) →
        let made := (opening memory registry world).after before
        let view := fun history : List Action =>
          (made.after (.invoke call :: history)).view made.tasks.nextNumber
        call.Delivered (made.prepared call) (view later) ∧
          (view later).Leads (view (later ++ further)) ∧
          (made.after (.invoke call :: later)).Recorded world) ∧
    (∀ (before later : List Operation) (call : Call), call.Quiet →
      (∀ operation ∈ before ++ later, operation.Quiet) →
        let start := Session.opening memory registry world
        let session := start.afterwards before
        let task := session.workshop.tasks.nextNumber
        let operations := before ++ .defer call :: later
        let history := start.history operations
        let floor := (opening memory registry world).after history
        (session.defer call).1 = .ok task ∧ (∀ action ∈ history, action.Quiet) ∧
          floor.Follows (start.afterwards operations) ∧ floor.Recorded world ∧
          call.Delivered ((session.prepareDeferred call.dispatcher call.request).1.map Prod.fst)
            (floor.view task)) ∧
    (∀ (floor : Floor) (thread : Thread) (task : Nat) (job : Deferred),
      floor.phases[task]? = some (.waiting job) →
        let reached := floor.after (Action.run thread task)
        reached.session = floor.session.ran thread ⟨task, job⟩ ∧
          reached.phases = floor.phases.set task .spent) := by
  have aligned := aligned_opening memory registry world
  have recorded := Recorded.opening memory registry world
  refine ⟨?floors, ?sessions, ?runs⟩
  case floors =>
    intro before later further call quiet calm
    rw [List.append_assoc] at calm
    obtain ⟨calmBefore, calmRest⟩ := List.forall_mem_append.1 calm
    obtain ⟨calmLater, _⟩ := List.forall_mem_append.1 calmRest
    obtain ⟨delivered, leads⟩ := (aligned.after calmBefore).delivered quiet calmRest
    exact ⟨delivered, leads,
      (recorded.after calmBefore).after (List.forall_mem_cons.2 ⟨quiet, calmLater⟩)⟩
  case sessions =>
    intro before later call quiet calm start session task operations history floor
    obtain ⟨calmBefore, calmLater⟩ := List.forall_mem_append.1 calm
    have calmAll : ∀ operation ∈ operations, operation.Quiet :=
      List.forall_mem_append.2 ⟨calmBefore, List.forall_mem_cons.2 ⟨quiet, calmLater⟩⟩
    have opened := Follows.opening memory registry world
    have calmHistory := start.quiet_history calmAll
    have split : floor = ((opening memory registry world).after (start.history before)).after
        (session.history (.defer call :: later)) := by
      rw [← after_append, ← Session.history_append]
    obtain ⟨number, delivered⟩ := (opened.afterwards aligned calmBefore).delivered
      (aligned.after (start.quiet_history calmBefore)) quiet calmLater
    rw [← split] at delivered
    exact ⟨number, calmHistory, opened.afterwards aligned calmAll, recorded.after calmHistory,
      delivered⟩
  case runs => exact fun floor thread task job phase => after_run thread phase

/-- A callback is told once of a provider that returns the text it is given, on a floor like in a
session that runs the only unit there is. -/
theorem deferred_delivery_echo :
    let callback : Callback := ⟨fun _ _ => none, fun _ _ => none⟩
    let dispatcher : Dispatcher :=
      { provider := .typed .text "Echo" .value, endpoint := { operation := "Echo" } }
    let message : Envelope := .ofBody .soap11 (.ofText "hi")
    let call : Call := ⟨dispatcher, { message := some message }, .async callback⟩
    let world : World := { ids := { unique := toString } }
    let floor := opening [] [(serverRole, .queued)] world
    let session := Session.opening [] [(serverRole, .queued)] world
    let operations : List Operation := [.defer call, .runNext]
    let alone := (floor.after (.invoke call :: Action.run .other 0)).view 0
    let view := (floor.after (session.history operations)).view 0
    call.Quiet ∧ alone.RunOut ∧ alone.notices.length = 1 ∧ (session.defer call).1 = .ok 0 ∧
      view.RunOut ∧ view.inputs = [some (.text "hi")] ∧ view.notices.length = 1 ∧
      (session.afterwards operations).workshop.tasks.status? 0 = view.status ∧
      ((floor.act (.invoke call)).after (Action.run .other 0)).session =
        (floor.act (.invoke call)).session.ran .other
          ⟨0, call.job ⟨.text, some (.text "hi")⟩⟩ := by
  intro callback dispatcher message call world floor session operations alone view
  have quiet : call.Quiet := ⟨trivial, fun _ _ => rfl, fun _ _ => rfl⟩
  have admitted : session.admission call = .ok (⟨.text, some (.text "hi")⟩, .queued) := rfl
  have invoked : floor.act (.invoke call) = _ := @invoke_of_admitted floor call _ _ admitted
  have deferred : session.operate (.defer call) = _ :=
    congrArg Prod.snd (Session.defer_of_admitted admitted)
  have history : session.history operations = .invoke call :: Action.run .caller 0 := by
    simp only [operations, Session.history, Session.steps, Session.fst_prepareDeferred, admitted,
      deferred]
    rfl
  have phase : (floor.act (.invoke call)).phases[0]? =
      some (.waiting (call.job ⟨.text, some (.text "hi")⟩)) := by
    rw [invoked]
    rfl
  have course : (floor.act (.invoke call)).course 0 = [.submitted] := by
    rw [invoked]
    rfl
  have pending : (floor.act (.invoke call)).tasks.status? 0 = some .pending := by
    rw [invoked]
    rfl
  have runOut (thread : Thread) :
      ((floor.after (.invoke call :: Action.run thread 0)).view 0).RunOut := by
    rw [after_cons]
    exact runOut_run thread phase pending (by simp [course])
  obtain ⟨floors, sessions, runs⟩ := deferred_delivery [] [(serverRole, .queued)] world
  obtain ⟨delivered, _⟩ := floors [] (Action.run .other 0) [.cancel 0] call quiet
    (by simp [Action.run, Action.Quiet])
  have told : alone.notices.length = 1 := delivered.answered callback rfl (runOut .other)
  obtain ⟨number, _, follows, _, delivered⟩ := sessions [] [.runNext] call quiet
    (by simp [Operation.Quiet])
  have ran : view.RunOut := by
    simp only [view, history]
    exact runOut .caller
  have inputs : view.inputs = [some (.text "hi")] := by
    rcases delivered.calledOnce ⟨.text, some (.text "hi")⟩ rfl ran.1 with called | next
    · exact called
    · exact nomatch ran.2.symm.trans next
  exact ⟨quiet, runOut .other, told, number, ran, inputs, delivered.answered callback rfl ran,
    congrArg (TaskTable.status? · 0) follows.tasks.symm, (runs _ .other 0 _ phase).1⟩

end Floor

end SoapDispatch.Dispatch
