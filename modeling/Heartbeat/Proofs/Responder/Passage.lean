import Heartbeat.Proofs.Responder.Refinement

/-!
Where a termination responder goes from each phase, and what it tells others on the way.
-/

namespace Heartbeat

/-- What a row of events tells those who wait. -/
def milestones (events : List Event) : List Milestone :=
  events.filterMap fun
    | .milestone milestone => some milestone
    | _ => none

theorem milestones_append (events more : List Event) :
    milestones (events ++ more) = milestones events ++ milestones more :=
  List.filterMap_append ..

theorem milestones_outward (events : List Event) :
    milestones (outward events) = milestones events := by
  induction events with
  | nil => rfl
  | cons event events ih =>
      cases event with
      | notice notice => exact ih
      | call call => exact ih
      | milestone milestone => exact congrArg (milestone :: ·) ih

theorem Connector.milestones_step [Channel C] (connector : Connector) (tick : Nat)
    (attempt : Attempt) (channel : C) :
    milestones (connector.step tick attempt channel).events = [] := by
  refine List.filterMap_eq_nil_iff.mpr fun event member => ?_
  have shown := connector.step_events tick attempt channel event member
  cases event with
  | milestone milestone => exact absurd (shown rfl) Bool.false_ne_true
  | notice notice => rfl
  | call call => rfl

theorem milestones_ofAnswer (call : Call) (notices : List Notice) :
    milestones (Event.ofAnswer call notices) = [] := by
  rw [← milestones_outward, Responder.outward_ofAnswer]
  rfl

namespace Connector

variable {connector : Connector} {attempt : Attempt} {failed : UInt64}

theorem advance_unfinished (call : Call) (what : String) (next : Stage)
    (answer : Answer C Reaction) :
    (connector.advance call what attempt next answer).verdict ≠ .finished failed := by
  unfold advance
  cases answer.result <;> exact nofun

theorem discard_unfinished (answer : Answer C Reaction) :
    (discard attempt answer).verdict ≠ .finished failed := by
  unfold discard
  cases answer.result <;> exact nofun

theorem pause_unfinished (tick : Nat) (channel : C) :
    (connector.pause tick attempt channel).verdict ≠ .finished failed := by
  unfold pause
  cases connector.pacing <;> exact nofun

/-- Connecting ends with a look at a channel that says it is up. -/
theorem dialed_of_finished [Channel C] {tick : Nat} {channel : C}
    (ended : (connector.step tick attempt channel).verdict = .finished failed) :
    attempt.stage = .checking ∧ Channel.isDialed channel = true := by
  unfold step at ended
  cases stage : attempt.stage with
  | checking =>
      by_cases dialed : Channel.isDialed channel = true
      · exact ⟨rfl, dialed⟩
      · simp only [stage, if_neg dialed] at ended
        exact (advance_unfinished _ _ _ _ ended).elim
  | dialing =>
      simp only [stage] at ended
      exact (advance_unfinished _ _ _ _ ended).elim
  | discarding =>
      simp only [stage] at ended
      exact (discard_unfinished _ ended).elim
  | pausing =>
      simp only [stage] at ended
      exact (pause_unfinished _ _ ended).elim
  | asleep wake =>
      simp only [stage] at ended
      split at ended <;> cases ended

end Connector

namespace Responder

variable [Channel C]

/-- In this phase the channel is asked whether it is up, and says that it is. -/
inductive FindsDialed (channel : C) : Phase → Prop where
  | atOnce (prepared : Channel.isPrepared channel) (dialed : Channel.isDialed channel) :
      FindsDialed channel .starting
  | atLast (failed : UInt64) (dialed : Channel.isDialed channel) :
      FindsDialed channel (.connecting ⟨failed, .checking⟩)

/-- In this phase a datagram is received that is accepted as a request to terminate. -/
inductive Accepts (date : Calendar.Instant) (channel : C) : Phase → Prop where
  | request (budget : Budget) (bytes : Bytes) (request : Envelope)
      (received : (Channel.receive channel).result = .datagram bytes)
      (accepted : Envelope.decodeExpecting date .terminateWorkerRequest bytes = .ok request) :
      Accepts date channel (.receiving budget)

/-- In this phase the reply is sent, and the send comes back, though it may have failed. -/
inductive Replies (responder : Responder) (date : Calendar.Instant) (channel : C) :
    Phase → Prop where
  | reply (budget : Budget)
      (returned : (Channel.send (responder.replyBytes date) channel).result ≠ .crashed) :
      Replies responder date channel (.replying budget)

/-- All that one turn of a termination responder can come to. -/
inductive Passage (responder : Responder) (date : Calendar.Instant) (channel : C) :
    Phase → Status → List Milestone → Prop where
  | crash : Passage responder date channel phase .crashed []
  | connect (down : phase.isUp = false) (attempt : Attempt) :
      Passage responder date channel phase (.running (.connecting attempt)) []
  | join (dialed : FindsDialed channel phase) :
      Passage responder date channel phase (.running responder.listen) [.connected]
  | listen : Passage responder date channel (.listening budget) (.running (.receiving budget)) []
  | wait : Passage responder date channel (.receiving budget) (.running (.receiving budget)) []
  | pass : Passage responder date channel (.receiving budget) (.running (.listening budget')) []
  | exhaust : Passage responder date channel (.receiving budget)
      (.running (.closing (.exhausted consecutive))) []
  | take (accepts : Accepts date channel (.receiving budget)) :
      Passage responder date channel (.receiving budget) (.running (.replying budget')) []
  | reply (replies : Replies responder date channel (.replying budget)) :
      Passage responder date channel (.replying budget) (.running (.closing .terminated))
        [.requested]
  | close : Passage responder date channel (.closing exit) (.finished exit) []

namespace Passage

variable {responder : Responder} {date : Calendar.Instant} {channel : C} {phase : Phase}
  {status : Status} {said : List Milestone}

theorem findsDialed (passage : Passage responder date channel phase status said)
    (tells : said.contains .connected) : FindsDialed channel phase := by
  cases passage with
  | join dialed => exact dialed
  | _ => cases tells

theorem replies (passage : Passage responder date channel phase status said)
    (tells : said.contains .requested) :
    responder.Replies date channel phase ∧ ∃ budget, phase = .replying budget := by
  cases passage with
  | reply replies => exact ⟨replies, _, rfl⟩
  | _ => cases tells

theorem accepts {budget : Budget}
    (passage : Passage responder date channel phase (.running (.replying budget)) said) :
    Accepts date channel phase := by
  cases passage with
  | take accepts => exact accepts

end Passage

variable {responder : Responder} (date : Calendar.Instant)

theorem passage_close (exit : Exit) (channel : C) :
    let turn := responder.close exit channel
    Passage responder date channel (.closing exit) (.ofVerdict (.closing exit) turn.verdict)
      (milestones turn.events) := by
  by_cases crashes : (Channel.close channel).result = .crashed
  · simp only [close, crashes, milestones_ofAnswer]
    exact .crash
  · obtain ⟨events, closed, seen⟩ := responder.close_of_not_crashed exit crashes
    simp only [closed, ← milestones_outward events, seen]
    exact .close

variable (termination : responder.role = .termination)

include termination

theorem milestones_announce : milestones responder.announce = [.connected] := by
  rw [← milestones_outward, outward_announce, termination]
  rfl

theorem passage_start (channel : C) :
    let turn := responder.start channel
    Passage responder date channel .starting (.ofVerdict .starting turn.verdict)
      (milestones turn.events) := by
  unfold start
  by_cases ready : (Channel.isPrepared channel && Channel.isDialed channel) = true
  · obtain ⟨prepared, dialed⟩ := Bool.and_eq_true_iff.mp ready
    simp only [if_pos ready, milestones_announce termination]
    exact .join (.atOnce prepared dialed)
  · simp only [if_neg ready]
    exact .connect rfl {}

theorem passage_connect (tick : Nat) (attempt : Attempt) (channel : C) :
    let turn := responder.connect tick attempt channel
    Passage responder date channel (.connecting attempt)
      (.ofVerdict (.connecting attempt) turn.verdict) (milestones turn.events) := by
  have quiet := responder.connector.milestones_step tick attempt channel
  unfold connect
  simp only
  cases made : (responder.connector.step tick attempt channel).verdict with
  | go next =>
      simp only [quiet]
      exact .connect rfl next
  | finished failed =>
      obtain ⟨checking, dialed⟩ := Connector.dialed_of_finished made
      obtain ⟨failures, stage⟩ := attempt
      cases checking
      simp only [milestones_append, quiet, milestones_announce termination, List.nil_append]
      exact .join (.atLast failures dialed)
  | waiting =>
      simp only [quiet]
      exact .connect rfl attempt
  | crashed =>
      simp only [quiet]
      exact .crash

theorem passage_receive (budget : Budget) (channel : C) :
    let turn := responder.receive date budget channel
    Passage responder date channel (.receiving budget)
      (.ofVerdict (.receiving budget) turn.verdict) (milestones turn.events) := by
  have quiet : milestones (responder.receive date budget channel).events = [] := by
    rw [← milestones_outward, outward_receive]
    rfl
  simp only [quiet]
  unfold receive
  simp only
  cases received : (Channel.receive channel).result with
  | datagram bytes =>
      simp only [accept, termination]
      cases accepted : Envelope.decodeExpecting date Role.termination.request bytes with
      | ok request => exact .take (.request budget bytes request received accepted)
      | error fault => exact .pass
  | failed fault =>
      simp only [failReceive]
      split
      · exact .exhaust
      · exact .pass
  | waiting => exact .wait
  | crashed => exact .crash

theorem passage_reply (budget : Budget) (channel : C) :
    let turn := responder.reply date budget channel
    Passage responder date channel (.replying budget)
      (.ofVerdict (.replying budget) turn.verdict) (milestones turn.events) := by
  by_cases crashes : (Channel.send (responder.replyBytes date) channel).result = .crashed
  · unfold replyBytes at crashes
    simp only [reply, crashes, milestones_ofAnswer]
    exact .crash
  · obtain ⟨events, replied, seen⟩ := responder.reply_of_not_crashed date budget crashes
    simp only [replied, ← milestones_outward events, seen]
    simp only [conclude, termination]
    exact .reply (.reply budget crashes)

theorem passage (tick : Nat) (phase : Phase) (channel : C) :
    let turn := responder.step date tick phase channel
    Passage responder date channel phase (.ofVerdict phase turn.verdict)
      (milestones turn.events) := by
  cases phase with
  | starting => exact passage_start date termination channel
  | connecting attempt => exact passage_connect date termination tick attempt channel
  | listening budget => exact .listen
  | receiving budget => exact passage_receive date termination budget channel
  | replying budget => exact passage_reply date termination budget channel
  | closing exit => exact passage_close date exit channel

end Responder

end Heartbeat
