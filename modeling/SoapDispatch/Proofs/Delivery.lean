import SoapDispatch.Proofs.Numbering

/-!
# Delivery

What becomes of a deferred invocation, whatever else is done on the floor. `Call.Standing` lists all
the situations an invocation can be in, with its status and its whole course up to there; every
action leads from one of them to another, and `Call.Delivered` is what they have in common: no
notice is lost or given twice, and a cancelled invocation is silent.
-/

namespace SoapDispatch.Dispatch

open SoapDispatch.Soap

namespace Call

variable (call : Call)

/-- What happens in a run that has come to telling something of how the work ends. -/
def ran (invocation : Invocation) (events : List Event) : List Occurrence :=
  [.submitted, .taken, .called invocation.input] ++
    (call.dispatcher.provider.handling invocation.input).map .heard ++ events.map .heard

/-- How the work ends when the ids that are left are the given ones. -/
def endingOf (invocation : Invocation) (ids : IdSupply) : WorkOutcome × List Event :=
  call.ending invocation.type ids (call.dispatcher.provider.result invocation.input)

/-- What can be known of an invocation, given how it was prepared. -/
inductive Standing : Except Failure Invocation → View → Prop where
  | refused (failure : Failure) : Standing (.error failure)
      ⟨some .refused, some (.failed failure.message), (call.failureNotice failure).map .heard⟩
  | waiting (invocation : Invocation) : Standing (.ok invocation)
      ⟨some (.waiting (call.job invocation)), some .pending, [.submitted]⟩
  | cancelled (invocation : Invocation) : Standing (.ok invocation)
      ⟨some (.waiting (call.job invocation)), some .cancelled, [.submitted, .cancelled]⟩
  | dropped (invocation : Invocation) : Standing (.ok invocation)
      ⟨some .spent, some .cancelled, [.submitted, .cancelled, .taken]⟩
  | begun (invocation : Invocation) : Standing (.ok invocation)
      ⟨some (.begun (call.job invocation)), some .running, [.submitted, .taken]⟩
  | called (invocation : Invocation) : Standing (.ok invocation)
      ⟨some (.called (call.job invocation) (call.dispatcher.provider.result invocation.input)),
        some .running, call.ran invocation []⟩
  | told (invocation : Invocation) (ids : IdSupply) : Standing (.ok invocation)
      ⟨some (.told (call.endingOf invocation ids).1), some .running,
        call.ran invocation (call.endingOf invocation ids).2⟩
  | ended (invocation : Invocation) (ids : IdSupply) : Standing (.ok invocation)
      ⟨some .spent, some (call.endingOf invocation ids).1.status,
        call.ran invocation (call.endingOf invocation ids).2 ++
          [.ended (call.endingOf invocation ids).1]⟩

variable {call}

namespace Standing

variable {floor : Floor} {task : Nat} {prepared : Except Failure Invocation}

/-- Cancelling leads to a situation that an invocation can be in. -/
theorem cancel (standing : call.Standing prepared (floor.view task)) :
    call.Standing prepared ((floor.cancel task).view task) := by
  rcases known : floor.view task with ⟨phase, status, course⟩
  obtain ⟨phaseKnown, statusKnown, courseKnown⟩ := floor.view_eq_iff.1 known
  rw [known] at standing
  have kept {other : TaskStatus} (started : other ≠ .pending) (same : status = some other) :
      (floor.cancel task).view task = ⟨phase, status, course⟩ :=
    known ▸ floor.view_cancel_of_ne_pending started (statusKnown.trans same)
  cases standing with
  | waiting invocation =>
    rw [floor.view_cancel_of_pending statusKnown, phaseKnown, courseKnown]
    exact .cancelled invocation
  | refused failure => exact kept (by simp) rfl ▸ .refused failure
  | cancelled invocation => exact kept (by simp) rfl ▸ .cancelled invocation
  | dropped invocation => exact kept (by simp) rfl ▸ .dropped invocation
  | begun invocation => exact kept (by simp) rfl ▸ .begun invocation
  | called invocation => exact kept (by simp) rfl ▸ .called invocation
  | told invocation ids => exact kept (by simp) rfl ▸ .told invocation ids
  | ended invocation ids =>
    have started : (call.endingOf invocation ids).1.status ≠ .pending := by
      cases (call.endingOf invocation ids).1 <;> simp [WorkOutcome.status]
    exact kept started rfl ▸ .ended invocation ids

/-- Running a unit leads to a situation that its invocation can be in. -/
theorem take (standing : call.Standing prepared (floor.view task)) :
    call.Standing prepared ((floor.take task).view task) := by
  rcases known : floor.view task with ⟨phase, status, course⟩
  obtain ⟨phaseKnown, statusKnown, courseKnown⟩ := floor.view_eq_iff.1 known
  rw [known] at standing
  have kept (other : ∀ job, phase ≠ some (.waiting job)) :
      (floor.take task).view task = ⟨phase, status, course⟩ := by
    rw [floor.take_of_not_waiting (phaseKnown ▸ other), known]
  cases standing with
  | waiting invocation =>
    rw [floor.view_take_of_pending phaseKnown statusKnown, courseKnown]
    exact .begun invocation
  | cancelled invocation =>
    rw [floor.view_take_of_cancelled phaseKnown statusKnown, courseKnown]
    exact .dropped invocation
  | refused failure => exact kept (by simp) ▸ .refused failure
  | dropped invocation => exact kept (by simp) ▸ .dropped invocation
  | begun invocation => exact kept (by simp) ▸ .begun invocation
  | called invocation => exact kept (by simp) ▸ .called invocation
  | told invocation ids => exact kept (by simp) ▸ .told invocation ids
  | ended invocation ids => exact kept (by simp) ▸ .ended invocation ids

/-- Going on with the run of a unit leads to a situation that its invocation can be in. -/
theorem advance (quiet : call.Quiet) (thread : Thread)
    (standing : call.Standing prepared (floor.view task)) :
    call.Standing prepared ((floor.advance thread task).view task) := by
  rcases known : floor.view task with ⟨phase, status, course⟩
  obtain ⟨phaseKnown, statusKnown, courseKnown⟩ := floor.view_eq_iff.1 known
  rw [known] at standing
  have kept (begun : ∀ job, phase ≠ some (.begun job))
      (called : ∀ job result, phase ≠ some (.called job result))
      (told : ∀ outcome, phase ≠ some (.told outcome)) :
      (floor.advance thread task).view task = ⟨phase, status, course⟩ := by
    subst phaseKnown
    rw [floor.advance_of_resting thread begun called told, known]
  cases standing with
  | begun invocation =>
    rw [floor.view_advance_of_begun thread phaseKnown, statusKnown, courseKnown]
    have course : call.ran invocation [] = [.submitted, .taken] ++ .called invocation.input ::
        (call.dispatcher.provider.handling invocation.input).map .heard := List.append_nil _
    exact course ▸ .called invocation
  | called invocation =>
    rw [floor.view_advance_of_called thread phaseKnown, statusKnown, courseKnown, quiet.fst_tell,
      call.since_tell]
    have course (events : List Event) :
        call.ran invocation [] ++ events.map .heard = call.ran invocation events := by
      simp [ran]
    rw [course]
    exact .told invocation floor.session.world.ids
  | told invocation ids =>
    rw [floor.view_advance_of_told thread phaseKnown, statusKnown, courseKnown]
    exact .ended invocation ids
  | refused failure => exact kept (by simp) (by simp) (by simp) ▸ .refused failure
  | waiting invocation => exact kept (by simp) (by simp) (by simp) ▸ .waiting invocation
  | cancelled invocation => exact kept (by simp) (by simp) (by simp) ▸ .cancelled invocation
  | dropped invocation => exact kept (by simp) (by simp) (by simp) ▸ .dropped invocation
  | ended invocation ids => exact kept (by simp) (by simp) (by simp) ▸ .ended invocation ids

/-- Whatever is done, an invocation that has been made stays in a situation it can be in. -/
theorem act (aligned : floor.Aligned) (inside : task < floor.tasks.length) {action : Action}
    (quiet : call.Quiet) (calm : action.Quiet)
    (standing : call.Standing prepared (floor.view task)) :
    call.Standing prepared ((floor.act action).view task) := by
  cases action with
  | invoke other =>
    obtain ⟨session, phase, status, occurrences, tasks, made⟩ := floor.exists_invoke_eq calm
    rw [Floor.act, made, aligned.view_enroll_of_lt tasks inside]
    exact standing
  | cancel other =>
    by_cases same : other = task
    · exact same ▸ standing.cancel
    · exact floor.view_cancel_of_ne same ▸ standing
  | take other =>
    by_cases same : other = task
    · exact same ▸ standing.take
    · exact floor.view_take_of_ne same ▸ standing
  | advance thread other =>
    by_cases same : other = task
    · exact same ▸ standing.advance quiet thread
    · exact floor.view_advance_of_ne thread same ▸ standing
  | disturb memory registry ids => exact standing

/-- Whatever is done, an invocation that has been made stays in the situations it can be in. -/
theorem after (aligned : floor.Aligned) (inside : task < floor.tasks.length) {history : List Action}
    (quiet : call.Quiet) (calm : ∀ action ∈ history, action.Quiet)
    (standing : call.Standing prepared (floor.view task)) :
    call.Standing prepared ((floor.after history).view task) := by
  have kept (floor : Floor) (action : Action) (calm : action.Quiet) (known : floor.Aligned ∧
      task < floor.tasks.length ∧ call.Standing prepared (floor.view task)) :
        (floor.act action).Aligned ∧ task < (floor.act action).tasks.length ∧
          call.Standing prepared ((floor.act action).view task) := by
    obtain ⟨aligned, inside, standing⟩ := known
    exact ⟨aligned.act calm, Nat.lt_of_lt_of_le inside (Floor.length_tasks_act calm),
      standing.act aligned inside quiet calm⟩
  exact (Floor.after_of_act _ kept ⟨aligned, inside, standing⟩ calm).2.2

end Standing

end Call

/-- How an invocation that is made now is prepared. -/
def Floor.prepared (floor : Floor) (call : Call) : Except Failure Invocation :=
  (floor.session.admission call).map Prod.fst

/-- An invocation starts out refused or waiting, as it was prepared. -/
theorem Floor.Aligned.standing_invoke {floor : Floor} (aligned : floor.Aligned) {call : Call}
    (quiet : call.Quiet) :
    call.Standing (floor.prepared call) ((floor.invoke call).view floor.tasks.length) := by
  unfold Floor.prepared
  rcases prepared : floor.session.admission call with failure | ⟨invocation, executor⟩
  · rw [Floor.invoke_of_refused quiet prepared, aligned.view_enroll_self rfl]
    exact .refused failure
  · rw [Floor.invoke_of_admitted prepared, aligned.view_enroll_self rfl]
    exact .waiting invocation

/-! ## What all situations have in common -/

/-- The input of a provider's call. -/
def Occurrence.input? : Occurrence → Option (Option Payload)
  | .called input => some input
  | _ => none

/-- Whether an event is told to someone who waits for the end of an invocation: everything is but
the call of a handler. -/
def Event.isNotice : Event → Bool
  | .handled _ => false
  | _ => true

/-- What is told to someone who waits for the end of the invocation. -/
def Occurrence.notice? : Occurrence → Option Event
  | .heard event => if event.isNotice then some event else none
  | _ => none

/-- Whether a unit is handed to an executor. -/
def Occurrence.isSubmission : Occurrence → Bool
  | .submitted => true
  | _ => false

namespace View

variable (view : View)

/-- The inputs that the provider was called with. -/
def inputs : List (Option Payload) :=
  view.course.filterMap Occurrence.input?

/-- What those who wait for the end of the invocation were told. -/
def notices : List Event :=
  view.course.filterMap Occurrence.notice?

/-- How many units were handed to executors. -/
def submissions : Nat :=
  view.course.countP Occurrence.isSubmission

/-- A cancellation has succeeded. -/
def Cancelled : Prop :=
  .cancelled ∈ view.course

/-- The unit was run before any cancellation succeeded. -/
def RunFirst : Prop :=
  ∃ earlier later, view.course = earlier ++ .taken :: later ∧ .cancelled ∉ earlier

/-- The unit was run before any cancellation, and its run is over. -/
def RunOut : Prop :=
  view.RunFirst ∧ view.phase = some .spent

end View

/-- What is known of an invocation may become what is known later: its course only goes on, and a
task that has ended keeps its status. -/
structure View.Leads (earlier later : View) : Prop where
  course : earlier.course <+: later.course
  status : ∀ status : TaskStatus, earlier.status = some status → status.isFinished = true →
    later.status = some status

/-- What holds of an invocation at any time, given how it was prepared. -/
structure Call.Delivered (call : Call) (prepared : Except Failure Invocation) (view : View) :
    Prop where
  /-- A failed preparation is told of at once, and nothing else ever happens. -/
  refused : ∀ failure, prepared = .error failure →
    view.course = (call.failureNotice failure).map .heard ∧
      view.status = some (.failed failure.message)
  /-- Every other invocation hands in one unit. -/
  submitted : ∀ invocation, prepared = .ok invocation → view.submissions = 1
  /-- The provider is called at most once, on the input that was read, and only if the unit is run
  before a cancellation. -/
  called : ∀ invocation, prepared = .ok invocation →
    view.inputs = [] ∨ view.inputs = [invocation.input] ∧ view.RunFirst
  /-- If the unit is run before a cancellation then the provider is called; the call is still to
  come only while the run has just begun. -/
  calledOnce : ∀ invocation, prepared = .ok invocation → view.RunFirst →
    view.inputs = [invocation.input] ∨ view.phase = some (.begun (call.job invocation))
  /-- Once a cancellation has succeeded, no provider is called, nobody is told of anything, and the
  task is cancelled. -/
  cancelled : view.Cancelled →
    view.inputs = [] ∧ (∀ event, .heard event ∉ view.course) ∧ view.status = some .cancelled
  /-- Nobody is told anything of a unit that has not been run. -/
  waiting : ∀ invocation, prepared = .ok invocation → ¬ view.RunFirst →
    view.notices = [] ∧ (view.status = some .pending ∨ view.status = some .cancelled)
  /-- Never is more than one notice given. -/
  single : view.notices.length ≤ 1
  /-- When the run is over, whoever is to be told has been told how the provider's call and the
  building of a response have ended, and the task has ended in the same way. -/
  ended : ∀ invocation, prepared = .ok invocation → view.RunOut →
    ∃ ids, view.notices = (call.endingOf invocation ids).2 ∧
      view.status = some (call.endingOf invocation ids).1.status
  /-- When the run is over, a callback has been told. -/
  answered : ∀ callback, call.discipline = .async callback → view.RunOut →
    view.notices.length = 1

/-! ### Parts of a course -/

section Parts

variable (events : List Event)

/-- No telling is a call of a provider. -/
theorem filterMap_input?_heard :
    (events.map Occurrence.heard).filterMap Occurrence.input? = [] := by
  simp [List.filterMap_map, Function.comp_def, Occurrence.input?]

/-- Notices are what is told but for the calls of handlers. -/
theorem filterMap_notice?_heard :
    (events.map Occurrence.heard).filterMap Occurrence.notice? = events.filter Event.isNotice := by
  rw [List.filterMap_map, ← List.filterMap_eq_filter]
  congr 1

/-- No telling hands in a unit. -/
theorem countP_isSubmission_heard :
    (events.map Occurrence.heard).countP Occurrence.isSubmission = 0 := by
  simp [List.countP_map, Function.comp_def, Occurrence.isSubmission]

/-- The call of a handler is no notice. -/
theorem filter_handling (provider : Provider) (input : Option Payload) :
    (provider.handling input).filter Event.isNotice = [] := by
  unfold Provider.handling
  cases (provider.reply input).handled <;> rfl

end Parts

namespace View

variable {view : View}

/-- A unit that was taken right after it was handed in was run first. -/
theorem runFirst_of_course {later : List Occurrence}
    (course : view.course = [.submitted, .taken] ++ later) : view.RunFirst :=
  ⟨[.submitted], later, course, by simp⟩

/-- A unit that was never taken was not run. -/
theorem not_runFirst_of_notMem (untaken : .taken ∉ view.course) : ¬ view.RunFirst := by
  rintro ⟨earlier, later, course, _⟩
  exact untaken (by simp [course])

/-- A unit that was taken after a cancellation was not run first. -/
theorem not_runFirst_of_dropped (course : view.course = [.submitted, .cancelled, .taken]) :
    ¬ view.RunFirst := by
  rintro ⟨earlier, later, split, uncancelled⟩
  rw [course] at split
  match earlier, split, uncancelled with
  | [], split, _ => simp at split
  | [_], split, _ => simp at split
  | _ :: second :: _, split, uncancelled =>
    simp only [List.cons_append, List.cons.injEq] at split
    exact uncancelled (by simp [← split.2.1])

end View

namespace Call

variable {call : Call}

/-- What is told of a failure is a notice. -/
@[simp] theorem filter_failureNotice (failure : Failure) :
    (call.failureNotice failure).filter Event.isNotice = call.failureNotice failure := by
  obtain ⟨⟨provider, endpoint, _ | react, thread⟩, request, _ | callback⟩ := call <;> rfl

/-- A failure is told of at most once. -/
theorem length_failureNotice_le (failure : Failure) : (call.failureNotice failure).length ≤ 1 := by
  obtain ⟨⟨provider, endpoint, _ | react, thread⟩, request, _ | callback⟩ := call <;>
    simp [failureNotice, Observer.hears]

/-- What is told at the end is a notice. -/
@[simp] theorem filter_ending (type : PayloadType) (ids : IdSupply)
    (result : Except Failure (Option Payload)) :
    (call.ending type ids result).2.filter Event.isNotice = (call.ending type ids result).2 := by
  unfold ending
  split
  · exact filter_failureNotice _
  · split
    · rfl
    · split
      · exact filter_failureNotice _
      · rfl

/-- The end is told of at most once. -/
theorem length_ending_le (type : PayloadType) (ids : IdSupply)
    (result : Except Failure (Option Payload)) : (call.ending type ids result).2.length ≤ 1 := by
  unfold ending
  split
  · exact length_failureNotice_le _
  · split
    · exact Nat.zero_le _
    · split
      · exact length_failureNotice_le _
      · exact Nat.le_refl _

/-- A callback is told of the end once. -/
theorem length_ending_of_async {callback : Callback} (async : call.discipline = .async callback)
    (type : PayloadType) (ids : IdSupply) (result : Except Failure (Option Payload)) :
    (call.ending type ids result).2.length = 1 := by
  have failing (failure : Failure) : (call.failureNotice failure).length = 1 := by
    simp [failureNotice, async]
  unfold ending
  split
  · exact failing _
  · rw [async]
    simp only []
    split
    · exact failing _
    · rfl

section Ran

variable (call) (invocation : Invocation) (events : List Event)

/-- A run calls the provider once. -/
theorem inputs_ran : (call.ran invocation events).filterMap Occurrence.input? =
    [invocation.input] := by
  simp only [ran, List.filterMap_append, filterMap_input?_heard]
  rfl

/-- A run gives notice of nothing but how the work ends. -/
theorem notices_ran : (call.ran invocation events).filterMap Occurrence.notice? =
    events.filter Event.isNotice := by
  simp only [ran, List.filterMap_append, filterMap_notice?_heard, filter_handling]
  rfl

/-- A run is that of one unit. -/
theorem submissions_ran : (call.ran invocation events).countP Occurrence.isSubmission = 1 := by
  simp only [ran, List.countP_append, countP_isSubmission_heard]
  rfl

/-- No cancellation succeeds during a run. -/
theorem cancelled_notMem_ran : .cancelled ∉ call.ran invocation events := by
  simp [ran]

end Ran

namespace Delivered

variable {invocation : Invocation} {view : View}

/-- A unit that has not been run is delivered if nothing but a cancellation has happened. -/
theorem of_unrun (submissions : view.submissions = 1) (inputs : view.inputs = [])
    (silent : ∀ event, .heard event ∉ view.course) (unrun : ¬ view.RunFirst)
    (status : view.status = some .pending ∧ ¬ view.Cancelled ∨ view.status = some .cancelled) :
    call.Delivered (.ok invocation) view where
  refused failure refused := nomatch refused
  submitted _ _ := submissions
  called _ _ := .inl inputs
  calledOnce _ _ run := absurd run unrun
  cancelled cancelled := by
    refine ⟨inputs, silent, ?_⟩
    rcases status with ⟨_, uncancelled⟩ | status
    · exact absurd cancelled uncancelled
    · exact status
  waiting _ _ _ := by
    refine ⟨notices, ?_⟩
    rcases status with ⟨status, _⟩ | status
    · exact .inl status
    · exact .inr status
  single := by simp [notices]
  ended _ _ run := absurd run.1 unrun
  answered _ _ run := absurd run.1 unrun
where
  notices : view.notices = [] := by
    refine List.filterMap_eq_nil_iff.2 fun occurrence member => ?_
    cases occurrence with
    | heard event => exact absurd member (silent event)
    | _ => rfl

/-- A unit that is being run is delivered if its provider's call is made or next. -/
theorem of_running (submissions : view.submissions = 1) (run : view.RunFirst)
    (uncancelled : ¬ view.Cancelled) (running : view.phase ≠ some .spent)
    (inputs : view.inputs = [invocation.input] ∨
      view.inputs = [] ∧ view.phase = some (.begun (call.job invocation)))
    (single : view.notices.length ≤ 1) : call.Delivered (.ok invocation) view where
  refused failure refused := nomatch refused
  submitted _ _ := submissions
  called _ same := by
    cases same
    rcases inputs with made | ⟨unmade, _⟩
    · exact .inr ⟨made, run⟩
    · exact .inl unmade
  calledOnce _ same _ := by
    cases same
    rcases inputs with made | ⟨_, next⟩
    · exact .inl made
    · exact .inr next
  cancelled cancelled := absurd cancelled uncancelled
  waiting _ _ unrun := absurd run unrun
  single := single
  ended _ _ out := absurd out.2 running
  answered _ _ out := absurd out.2 running

/-- A unit whose run is over is delivered. -/
theorem of_ended (invocation : Invocation) (ids : IdSupply) : call.Delivered (.ok invocation)
    ⟨some .spent, some (call.endingOf invocation ids).1.status,
      call.ran invocation (call.endingOf invocation ids).2 ++
        [.ended (call.endingOf invocation ids).1]⟩ where
  refused failure refused := nomatch refused
  submitted _ _ := by
    rw [View.submissions, List.countP_append, submissions_ran]
    rfl
  called := by
    rintro _ ⟨⟩
    exact .inr ⟨inputs, View.runFirst_of_course rfl⟩
  calledOnce := by
    rintro _ ⟨⟩ _
    exact .inl inputs
  cancelled cancelled := by
    rcases List.mem_append.1 cancelled with during | after
    · exact absurd during (call.cancelled_notMem_ran invocation _)
    · simp at after
  waiting _ _ unrun := absurd (View.runFirst_of_course rfl) unrun
  single := by
    rw [View.notices, notices]
    exact length_ending_le _ _ _
  ended := by
    rintro _ ⟨⟩ _
    exact ⟨ids, notices, rfl⟩
  answered _ async _ := by
    rw [View.notices, notices]
    exact length_ending_of_async async _ _ _
where
  inputs : (call.ran invocation (call.endingOf invocation ids).2 ++
      [Occurrence.ended (call.endingOf invocation ids).1]).filterMap Occurrence.input? =
        [invocation.input] := by
    rw [List.filterMap_append, inputs_ran]
    rfl
  notices : (call.ran invocation (call.endingOf invocation ids).2 ++
      [Occurrence.ended (call.endingOf invocation ids).1]).filterMap Occurrence.notice? =
        (call.endingOf invocation ids).2 := by
    rw [List.filterMap_append, notices_ran, endingOf, filter_ending]
    exact List.append_nil _

end Delivered

/-- An invocation is delivered in every situation it can be in. -/
theorem Standing.delivered {prepared : Except Failure Invocation} {view : View}
    (standing : call.Standing prepared view) : call.Delivered prepared view := by
  cases standing with
  | refused failure =>
    have unrun : ¬ View.RunFirst ⟨some .refused, some (.failed failure.message),
        (call.failureNotice failure).map .heard⟩ := View.not_runFirst_of_notMem (by simp)
    constructor
    case refused =>
      rintro _ ⟨⟩
      exact ⟨rfl, rfl⟩
    case single =>
      rw [View.notices, filterMap_notice?_heard, filter_failureNotice]
      exact length_failureNotice_le failure
    case cancelled => simp [View.Cancelled]
    case answered => exact fun _ _ run => absurd run.1 unrun
    all_goals exact fun invocation prepared => nomatch prepared
  | waiting invocation =>
    exact .of_unrun rfl rfl (by simp) (View.not_runFirst_of_notMem (by simp))
      (.inl ⟨rfl, by simp [View.Cancelled]⟩)
  | cancelled invocation =>
    exact .of_unrun rfl rfl (by simp) (View.not_runFirst_of_notMem (by simp)) (.inr rfl)
  | dropped invocation =>
    exact .of_unrun rfl rfl (by simp) (View.not_runFirst_of_dropped rfl) (.inr rfl)
  | begun invocation =>
    exact .of_running rfl (View.runFirst_of_course rfl) (by simp [View.Cancelled]) (by simp)
      (.inr ⟨rfl, rfl⟩) (Nat.zero_le _)
  | called invocation =>
    have notices := congrArg List.length (call.notices_ran invocation [])
    exact .of_running (call.submissions_ran invocation []) (View.runFirst_of_course rfl)
      (call.cancelled_notMem_ran invocation []) (by simp) (.inl (call.inputs_ran invocation []))
      (Nat.le_trans (Nat.le_of_eq notices) (Nat.zero_le 1))
  | told invocation ids =>
    have notices := congrArg List.length
      (call.notices_ran invocation (call.endingOf invocation ids).2)
    rw [endingOf, filter_ending] at notices
    exact .of_running (call.submissions_ran invocation _) (View.runFirst_of_course rfl)
      (call.cancelled_notMem_ran invocation _) (by simp) (.inl (call.inputs_ran invocation _))
      (Nat.le_trans (Nat.le_of_eq notices) (length_ending_le _ _ _))
  | ended invocation ids => exact .of_ended invocation ids

/-- The end of the work decides about the status. -/
theorem Standing.status_of_ended {prepared : Except Failure Invocation} {view : View}
    (standing : call.Standing prepared view) {outcome : WorkOutcome}
    (ended : .ended outcome ∈ view.course) : view.status = some outcome.status := by
  cases standing with
  | ended invocation ids =>
    rcases List.mem_append.1 ended with during | last
    · simp [ran] at during
    · rw [Occurrence.ended.inj (List.mem_singleton.1 last)]
  | _ => simp [ran] at ended

/-- A task that has ended keeps its status. -/
theorem Standing.status_of_finished {prepared : Except Failure Invocation} {earlier later : View}
    (before : call.Standing prepared earlier) (afterwards : call.Standing prepared later)
    (course : earlier.course <+: later.course) {status : TaskStatus}
    (known : earlier.status = some status) (finished : status.isFinished = true) :
    later.status = some status := by
  -- Whatever has ended the task is written down in its course.
  cases before with
  | refused failure => exact known ▸ (afterwards.delivered.refused failure rfl).2
  | cancelled invocation =>
    exact known ▸ (afterwards.delivered.cancelled (course.subset (by simp))).2.2
  | dropped invocation =>
    exact known ▸ (afterwards.delivered.cancelled (course.subset (by simp))).2.2
  | ended invocation ids =>
    exact known ▸ afterwards.status_of_ended (course.subset (by simp))
  | _ =>
    cases known
    cases finished

end Call

/-- Every invocation is in a situation it can be in after every history. -/
theorem Floor.Aligned.standing {floor : Floor} (aligned : floor.Aligned) {call : Call}
    (quiet : call.Quiet) {history : List Action} (calm : ∀ action ∈ history, action.Quiet) :
    call.Standing (floor.prepared call)
      ((floor.after (.invoke call :: history)).view floor.tasks.nextNumber) := by
  have number : floor.tasks.length < (floor.invoke call).tasks.length := by
    obtain ⟨session, phase, status, occurrences, tasks, made⟩ := floor.exists_invoke_eq quiet
    have added : (floor.invoke call).tasks = floor.tasks ++ [status] := by
      rw [made]
      exact tasks
    simp [added]
  exact (aligned.standing_invoke quiet).after (aligned.invoke quiet) number quiet calm

/-- Every invocation is delivered, and what is known of it leads to what is known later. -/
theorem Floor.Aligned.delivered {floor : Floor} (aligned : floor.Aligned) {call : Call}
    (quiet : call.Quiet) {later further : List Action}
    (calm : ∀ action ∈ later ++ further, action.Quiet) :
    let view := fun history : List Action =>
      (floor.after (.invoke call :: history)).view floor.tasks.nextNumber
    call.Delivered (floor.prepared call) (view later) ∧
      (view later).Leads (view (later ++ further)) := by
  have standing := aligned.standing quiet (List.forall_mem_append.1 calm).1
  have afterwards := aligned.standing quiet calm
  have course : (floor.after (.invoke call :: later)).course floor.tasks.nextNumber <+:
      (floor.after (.invoke call :: (later ++ further))).course floor.tasks.nextNumber := by
    rw [← List.cons_append, after_append]
    exact course_after _ _
  exact ⟨standing.delivered, course, fun status known finished =>
    standing.status_of_finished afterwards course known finished⟩

end SoapDispatch.Dispatch
