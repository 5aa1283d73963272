import Heartbeat.Proofs.Channel.Scenario
import Heartbeat.Proofs.Responder.Attempts

/-!
Connecting in a calm scenario comes to an end: every attempt that does not bring the channel up
uses up a line, and there are only so many of them. Whatever the channel, a connector makes no
calls but those of connecting.
-/

namespace Heartbeat

namespace Scenario

theorem Calm.of_prepare {scenario : Scenario} (calm : scenario.Calm) :
    scenario.prepare.state.Calm where
  preparing cue member := calm.preparing cue (List.mem_of_mem_tail member)
  dialing := calm.dialing
  arrivals := calm.arrivals
  sending := calm.sending
  closing := calm.closing

theorem Calm.of_dial {scenario : Scenario} (calm : scenario.Calm) :
    scenario.dial.state.Calm where
  preparing := calm.preparing
  dialing cue member := calm.dialing cue (List.mem_of_mem_tail member)
  arrivals := calm.arrivals
  sending := calm.sending
  closing := calm.closing

theorem Calm.of_close {scenario : Scenario} (calm : scenario.Calm) :
    scenario.close.state.Calm :=
  ⟨calm.preparing, calm.dialing, calm.arrivals, calm.sending, fun n => calm.closing (n + 1)⟩

theorem lines_prepare_le (scenario : Scenario) : scenario.prepare.state.lines ≤ scenario.lines := by
  have shorter : scenario.preparing.tail.length ≤ scenario.preparing.length := by
    rw [List.length_tail]
    exact Nat.sub_le _ _
  exact Nat.add_le_add_right shorter _

end Scenario

namespace Connector

variable (connector : Connector)

/-- A row of turns of a connector that has all the time it wants. -/
abbrev Leads (n : Nat) (start : Standing Scenario Attempt) (events : List Event)
    (finish : Standing Scenario Attempt) : Prop :=
  Goes connector.step wake? none n start events finish

/-- What an attempt makes of a scenario: the channel is up, or there are fewer lines left. -/
structure Progress (before after : Scenario) : Prop where
  arrivals : after.arrivals = before.arrivals
  calm : after.Calm
  advance : after.dialed = true ∨ after.lines < before.lines

/-- An attempt that does not bring the channel up uses up a line. -/
theorem progress_of_tried {endpoint : Endpoint} {scenario after : Scenario} {trial : Trial}
    (calm : scenario.Calm) (tried : Tried endpoint scenario trial after) :
    Progress scenario after := by
  have fewer : Cue.next scenario.dialing ≠ .succeed →
      scenario.prepare.state.dial.state.lines < scenario.lines := fun spoken =>
    Nat.lt_of_lt_of_le (Nat.add_lt_add_left (Cue.length_tail_lt_of_next spoken) _)
      scenario.lines_prepare_le
  cases tried with
  | unprepared _ failed _ =>
      refine ⟨rfl, calm.of_prepare.of_close, .inr ?_⟩
      exact Nat.add_lt_add_right (Cue.length_tail_lt_of_next (Cue.ne_succeed_of_failed failed)) _
  | undialed _ _ failed _ =>
      exact ⟨rfl, calm.of_prepare.of_dial.of_close, .inr (fewer (Cue.ne_succeed_of_failed failed))⟩
  | unmarked _ _ _ unmarked =>
      refine ⟨rfl, calm.of_prepare.of_dial, .inr (fewer fun good => ?_)⟩
      have marked : scenario.prepare.state.dial.state.dialed = true := by
        simp [Scenario.dial, Scenario.prepare, good]
      exact absurd (unmarked.symm.trans marked) Bool.false_ne_true
  | joined _ _ _ marked => exact ⟨rfl, calm.of_prepare.of_dial, .inl marked⟩

theorem not_falls_of_calm {endpoint : Endpoint} {scenario : Scenario} (calm : scenario.Calm)
    (calls : List Call) : ¬ Falls endpoint scenario calls := by
  intro falls
  cases falls with
  | preparing _ crashed =>
      exact Cue.next_ne_crash calm.preparing (Cue.eq_crash_of_reaction crashed)
  | dialing _ _ crashed =>
      exact Cue.next_ne_crash calm.dialing (Cue.eq_crash_of_reaction crashed)
  | discardingUnprepared _ _ crashed => exact calm.closing 0 (Cue.eq_crash_of_reaction crashed)
  | discardingUndialed _ _ _ crashed => exact calm.closing 0 (Cue.eq_crash_of_reaction crashed)

/-- The lines that are left bound the number of attempts. -/
theorem exists_tries_up (endpoint : Endpoint) {scenario : Scenario} (calm : scenario.Calm) :
    ∃ trials after, Tries endpoint scenario trials after ∧
      after.arrivals = scenario.arrivals ∧ after.Calm ∧ after.dialed = true := by
  induction left : scenario.lines using Nat.strongRecOn generalizing scenario with
  | ind lines ih =>
      subst left
      cases up : scenario.dialed with
      | true => exact ⟨[], scenario, .none, rfl, calm, up⟩
      | false =>
          obtain ⟨trial, next, tried⟩ := (tried_or_falls endpoint up).resolve_right
            fun ⟨calls, falls⟩ => not_falls_of_calm calm calls falls
          have progress := progress_of_tried calm tried
          obtain dialed | fewer := progress.advance
          · exact ⟨[trial], next, .next tried .none, progress.arrivals, progress.calm, dialed⟩
          · obtain ⟨trials, last, others, arrivals, calm', dialed⟩ :=
              ih next.lines fewer progress.calm rfl
            exact ⟨trial :: trials, last, .next tried others, arrivals.trans progress.arrivals,
              calm', dialed⟩

/-- Sooner or later the channel is up. -/
theorem leads_to_dialed (tick : Nat) (failed : UInt64) {scenario : Scenario}
    (calm : scenario.Calm) :
    ∃ n events tick' failed' after,
      connector.Leads n ⟨tick, ⟨failed, .checking⟩, scenario⟩ events
        ⟨tick', ⟨failed', .checking⟩, after⟩ ∧
      after.arrivals = scenario.arrivals ∧ after.Calm ∧ after.dialed = true := by
  obtain ⟨trials, after, tries, arrivals, calm', dialed⟩ := exists_tries_up connector.endpoint calm
  obtain ⟨turns, events, -, row, -⟩ := makes_of_tries tries tick failed
  exact ⟨turns, events, _, _, after, row, arrivals, calm', dialed⟩

theorem step_of_dialed (tick : Nat) (failed : UInt64) {scenario : Scenario}
    (dialed : scenario.dialed = true) :
    connector.step tick ⟨failed, .checking⟩ scenario =
      ⟨.finished failed, scenario, [.notice (connector.ready failed)]⟩ := by
  have up : Channel.isDialed scenario = true := dialed
  exact connector.step_of_up tick failed up

end Connector

/-! What others see of it -/

namespace Event

def isOfConnecting : Event → Bool
  | .call (.prepare _) => true
  | .call (.dial _) => true
  | .call .close => true
  | .call (.sleep _) => true
  | _ => false

end Event

/-- Connecting from here on ends with the channel up, and this is what others see of it. -/
def Connector.BringsUp (connector : Connector) (tick : Nat) (scenario : Scenario)
    (seen : List Event) : Prop :=
  (∀ event ∈ seen, event.isOfConnecting) ∧
    ∃ turns failed,
      let run := runTurns connector.step wake? none turns tick {} scenario
      run.verdict = .finished failed ∧ run.channel.dialed = true ∧ outward run.events = seen

namespace Connector

theorem isOfConnecting_ofAnswer {call : Call} (notices : List Notice)
    (kind : (Event.call call).isOfConnecting) :
    ∀ event ∈ Event.ofAnswer call notices, event.isOutward → event.isOfConnecting := by
  intro event member shown
  rcases List.mem_cons.mp member with rfl | told
  · exact kind
  · obtain ⟨notice, -, rfl⟩ := List.mem_map.mp told
    exact absurd shown Bool.false_ne_true

theorem isOfConnecting_append_notice {events : List Event} {notice : Notice}
    (each : ∀ event ∈ events, event.isOutward → event.isOfConnecting) :
    ∀ event ∈ events ++ [.notice notice], event.isOutward → event.isOfConnecting := by
  intro event member shown
  rcases List.mem_append.mp member with before | last
  · exact each event before shown
  · rw [List.mem_singleton.mp last] at shown
    exact absurd shown Bool.false_ne_true

theorem advance_events (connector : Connector) {call : Call} (what : String) (attempt : Attempt)
    (next : Stage) (answer : Answer C Reaction) (kind : (Event.call call).isOfConnecting) :
    ∀ event ∈ (connector.advance call what attempt next answer).events,
      event.isOutward → event.isOfConnecting := by
  unfold advance
  cases answer.result with
  | done => exact isOfConnecting_ofAnswer _ kind
  | failed fault => exact isOfConnecting_append_notice (isOfConnecting_ofAnswer _ kind)
  | crashed => exact isOfConnecting_ofAnswer _ kind

theorem discard_events (attempt : Attempt) (answer : Answer C Reaction) :
    ∀ event ∈ (discard attempt answer).events, event.isOutward → event.isOfConnecting := by
  unfold discard
  cases answer.result with
  | done => exact isOfConnecting_ofAnswer _ rfl
  | failed fault => exact isOfConnecting_append_notice (isOfConnecting_ofAnswer _ rfl)
  | crashed => exact isOfConnecting_ofAnswer _ rfl

theorem step_events [Channel C] (connector : Connector) (tick : Nat) (attempt : Attempt)
    (channel : C) :
    ∀ event ∈ (connector.step tick attempt channel).events,
      event.isOutward → event.isOfConnecting := by
  unfold step
  cases attempt.stage with
  | checking =>
      simp only
      split
      · exact isOfConnecting_append_notice (fun _ member => absurd member List.not_mem_nil)
      · exact connector.advance_events _ _ _ _ rfl
  | dialing => exact connector.advance_events _ _ _ _ rfl
  | discarding => exact discard_events attempt _
  | pausing =>
      unfold pause
      cases connector.pacing with
      | noted => exact isOfConnecting_ofAnswer [] rfl
      | skipped => exact fun _ member => absurd member List.not_mem_nil
      | slept => exact fun _ member => absurd member List.not_mem_nil
  | asleep wake =>
      simp only
      split <;> exact fun _ member => absurd member List.not_mem_nil

theorem brings_up (connector : Connector) (tick : Nat) {scenario : Scenario}
    (calm : scenario.Calm) :
    ∃ turns events tick' failed after,
      connector.Leads turns ⟨tick, {}, scenario⟩ events ⟨tick', ⟨failed, .checking⟩, after⟩ ∧
        connector.BringsUp tick scenario (outward events) ∧
        after.arrivals = scenario.arrivals ∧ after.Calm ∧ after.dialed = true := by
  obtain ⟨turns, events, tick', failed, after, row, arrivals, calm', dialed⟩ :=
    connector.leads_to_dialed tick 0 calm
  refine ⟨turns, events, tick', failed, after, row, ⟨?_, turns + 1, failed, ?_⟩, arrivals, calm',
    dialed⟩
  · intro event member
    obtain ⟨member', shown⟩ := List.mem_filter.mp member
    exact row.forall_events connector.step_events event member' shown
  · have ran := row.run_finished (connector.step_of_dialed tick' failed dialed)
      (Nat.lt_succ_self turns)
    rw [ran]
    exact ⟨rfl, dialed, by rw [outward_append]; exact List.append_nil _⟩

end Connector

end Heartbeat
