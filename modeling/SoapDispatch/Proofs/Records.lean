import SoapDispatch.Proofs.Numbering

/-!
# Records and courses

The record of a session and the courses of its invocations tell the same: whatever supplied code is
told is recorded, and every record is written down in the course of one invocation.
-/

namespace SoapDispatch.Dispatch

open SoapDispatch.Soap

namespace World

variable {world earlier : World}

/-- What is recorded in a world that has grown is what was recorded earlier and what was told
since. -/
theorem events_eq_since (grown : earlier.records <+: world.records) :
    world.records.map Record.event = earlier.records.map Record.event ++ world.since earlier := by
  obtain ⟨later, records⟩ := grown
  simp [since, ← records]

/-- What is told over a time is what is told in its two parts. -/
theorem since_eq_append {middle : World} (first : earlier.records <+: middle.records)
    (second : middle.records <+: world.records) :
    world.since earlier = middle.since earlier ++ world.since middle := by
  obtain ⟨inner, middleRecords⟩ := first
  obtain ⟨later, records⟩ := second
  simp [since, ← records, ← middleRecords, List.drop_append]

variable (world) (thread : Thread)

theorem records_note (event : Event) : world.records <+: (world.note thread event).records :=
  List.prefix_append _ _

theorem records_call (provider : Provider) (input : Option Payload) :
    world.records <+: (world.call thread provider input).2.records := by
  rw [call_eq]
  cases (provider.reply input).handled with
  | none => exact List.prefix_refl _
  | some input => exact world.records_note thread _

theorem records_discard (observer : Observer) (operation : String) (failure : Failure) :
    world.records <+: (world.discard thread observer operation failure).2.records := by
  cases observer with
  | nobody => exact List.prefix_refl _
  | listener react => exact world.records_note thread _

end World

/-- Telling of a refusal only adds records. -/
theorem Call.records_tellRefusal (call : Call) (failure : Failure) (world : World) :
    world.records <+: (call.tellRefusal failure world).2.records := by
  obtain ⟨dispatcher, request, _ | callback⟩ := call
  · exact world.records_discard _ _ _ _
  · exact world.records_note _ _

/-- Telling of an end only adds records. -/
theorem Deferred.records_tell (job : Deferred) (thread : Thread)
    (result : Except Failure (Option Payload)) (world : World) :
    world.records <+: (job.tell thread result world).2.records := by
  obtain ⟨dispatcher, invocation, _ | ⟨callback, responder⟩⟩ := job
  · cases result with
    | ok value => exact List.prefix_refl _
    | error failure => exact world.records_discard _ _ _ _
  · cases result with
    | error failure => exact world.records_note _ _
    | ok value =>
      simp only [tell, answerTo]
      cases responder.respondValue invocation.type value world.ids with
      | error failure => exact world.records_note _ _
      | ok result => exact World.records_note { world with ids := result.2 } _ _

/-- What an occurrence tells supplied code. -/
def Occurrence.event? : Occurrence → Option Event
  | .heard event => some event
  | _ => none

namespace Floor

/-- Everything that supplied code was told in the courses of invocations. -/
def events (floor : Floor) : List Event :=
  floor.log.filterMap fun entry => entry.2.event?

/-- The record of the session is that of an earlier world and what is told in the courses. -/
def Recorded (earlier : World) (floor : Floor) : Prop :=
  floor.session.world.records.map Record.event =
    earlier.records.map Record.event ++ floor.events

section Write

variable (floor : Floor) (task : Nat) (told : List Event)

theorem events_write (occurrences : List Occurrence) :
    (floor.write task occurrences).events =
      floor.events ++ occurrences.filterMap Occurrence.event? := by
  simp only [events, write, List.filterMap_append, List.filterMap_map]
  rfl

theorem filterMap_event?_heard :
    (told.map Occurrence.heard).filterMap Occurrence.event? = told := by
  simp [List.filterMap_map, Function.comp_def, Occurrence.event?]

end Write

namespace Recorded

variable {earlier : World} {floor : Floor}

/-- A step that writes down what is told in it keeps the record. -/
theorem step (recorded : floor.Recorded earlier) {next : Floor} (task : Nat)
    {occurrences : List Occurrence} {told : List Event}
    (log : next.log = (floor.write task occurrences).log)
    (same : occurrences.filterMap Occurrence.event? = told)
    (records : next.session.world.records.map Record.event =
      floor.session.world.records.map Record.event ++ told) : next.Recorded earlier := by
  have events : next.events = floor.events ++ told := by
    rw [← same, ← events_write, Floor.events, Floor.events, log]
  rw [Recorded, events, records, recorded, List.append_assoc]

/-- A step in which nobody is told anything keeps the record. -/
theorem silent (recorded : floor.Recorded earlier) {next : Floor} (task : Nat)
    {occurrences : List Occurrence} (log : next.log = (floor.write task occurrences).log)
    (same : occurrences.filterMap Occurrence.event? = [])
    (world : next.session.world.records = floor.session.world.records) : next.Recorded earlier :=
  recorded.step task log same (by rw [world, List.append_nil])

theorem opening (memory : TypeMemory) (registry : ExecutorRegistry) (world : World) :
    (Floor.opening memory registry world).Recorded world :=
  (List.append_nil _).symm

theorem invoke (recorded : floor.Recorded earlier) {call : Call} (quiet : call.Quiet) :
    (floor.invoke call).Recorded earlier := by
  rcases prepared : floor.session.admission call with failure | ⟨invocation, executor⟩
  · rw [invoke_of_refused quiet prepared]
    refine recorded.step _ rfl (filterMap_event?_heard _) ?_
    rw [← call.since_tellRefusal failure floor.session.world]
    exact World.events_eq_since (call.records_tellRefusal failure floor.session.world)
  · rw [invoke_of_admitted prepared]
    exact recorded.silent _ rfl rfl rfl

theorem cancel (recorded : floor.Recorded earlier) (task : Nat) :
    (floor.cancel task).Recorded earlier := by
  rw [cancel_eq]
  refine recorded.silent task rfl ?_ rfl
  split <;> rfl

theorem take (recorded : floor.Recorded earlier) (task : Nat) :
    (floor.take task).Recorded earlier := by
  unfold Floor.take
  split
  · split <;> exact recorded.silent task rfl rfl rfl
  · exact recorded

theorem advance (recorded : floor.Recorded earlier) (thread : Thread) (task : Nat) :
    (floor.advance thread task).Recorded earlier := by
  unfold Floor.advance
  split
  · next job phase =>
    exact recorded.step task rfl (filterMap_event?_heard _)
      (World.events_eq_since (floor.session.world.records_call _ _ _))
  · next job result phase =>
    exact recorded.step task rfl (filterMap_event?_heard _)
      (World.events_eq_since (job.records_tell _ _ _))
  · exact recorded.silent task rfl rfl rfl
  · exact recorded

/-- The record keeps to the courses whatever is done. -/
theorem act (recorded : floor.Recorded earlier) {action : Action} (quiet : action.Quiet) :
    (floor.act action).Recorded earlier := by
  cases action with
  | invoke call => exact recorded.invoke quiet
  | cancel task => exact recorded.cancel task
  | take task => exact recorded.take task
  | advance thread task => exact recorded.advance thread task
  | disturb memory registry ids => exact recorded

/-- The record keeps to the courses after any history. -/
theorem after (recorded : floor.Recorded earlier) {history : List Action}
    (quiet : ∀ action ∈ history, action.Quiet) : (floor.after history).Recorded earlier :=
  after_of_act (Recorded earlier) (fun _ _ calm known => Recorded.act known calm) recorded quiet

end Recorded

end Floor

end SoapDispatch.Dispatch
