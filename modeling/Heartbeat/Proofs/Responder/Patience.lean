import Heartbeat.Proofs.Responder.Attempts
import Heartbeat.Proofs.Responder.Passage

/-!
How long a job can go on by itself. Each turn that goes on lowers a rank, which is bounded by the
lines of the script and by the failures that a responder puts up with; so patience is enough.
-/

namespace Heartbeat

namespace Script

def lines (script : Script) : Nat :=
  script.preparing.length + script.dialing.length

variable (script : Script)

theorem lines_prepare_le : script.prepare.state.lines ≤ script.lines := by
  have shorter := List.length_tail (l := script.preparing)
  simp only [lines, prepare]
  omega

theorem lines_prepare_lt (spoken : Cue.next script.preparing ≠ .succeed) :
    script.prepare.state.lines < script.lines := by
  have shorter := Cue.length_tail_lt_of_next spoken
  simp only [lines, prepare]
  omega

theorem lines_dial_lt (spoken : Cue.next script.dialing ≠ .succeed) :
    script.dial.state.lines < script.lines := by
  have shorter := Cue.length_tail_lt_of_next spoken
  simp only [lines, dial]
  omega

/-- A receive meets silence, and then all later ones do; or nothing is left; or it meets the next
arrival. -/
theorem receive_cases :
    (∃ later, script.receive = ⟨.waiting, later, []⟩ ∧ later.receive = ⟨.waiting, later, []⟩) ∨
      (script.arrivals = [] ∧ script.receive = ⟨.failed .closed, script, []⟩) ∨
      ∃ arrival rest, script.arrivals = arrival :: rest ∧ arrival ≠ .silence ∧
        script.receive = ⟨arrival.reception, { script with arrivals := rest }, []⟩ := by
  cases silent : script.silent with
  | true =>
      have waits : script.receive = ⟨.waiting, script, []⟩ := if_pos silent
      exact .inl ⟨script, waits, waits⟩
  | false =>
      cases next : script.arrivals with
      | nil =>
          cases live : script.live with
          | true =>
              have waits : script.receive = ⟨.waiting, script, []⟩ := by
                simp [receive, silent, next, live]
              exact .inl ⟨script, waits, waits⟩
          | false => exact .inr (.inl ⟨rfl, by simp [receive, silent, next, live]⟩)
      | cons arrival rest =>
          by_cases silence : arrival = .silence
          · refine .inl ⟨{ script with arrivals := rest, silent := true }, ?_, rfl⟩
            simp [receive, silent, next, silence]
          · refine .inr (.inr ⟨arrival, rest, rfl, silence, ?_⟩)
            cases arrival with
            | silence => exact absurd rfl silence
            | _ => simp [receive, silent, next, Arrival.reception]

end Script

/-! Connecting -/

namespace Connector

/-- More turns than an attempt can go on for, as far as it has come. -/
def rank (tick : Nat) (script : Script) : Stage → Nat
  | .checking => if script.dialed then 1 else 6 * script.lines + 3
  | .dialing => 6 * script.lines + 2
  | .discarding => 6 * script.lines + 7
  | .pausing => 6 * script.lines + 6
  | .asleep wake => if wake ≤ tick then 6 * script.lines + 4 else 6 * script.lines + 5

theorem rank_checking_le (tick : Nat) (script : Script) :
    rank tick script .checking ≤ 6 * script.lines + 3 := by
  rw [rank]
  split <;> omega

variable {connector : Connector} {attempt next : Attempt} {script later : Script}
  {events : List Event} {tick : Nat}

theorem rank_advance_lt {call : Call} {what : String} {stage : Stage}
    {answer : Answer Script Reaction} {bound : Nat}
    (done : answer.result = .done → rank tick answer.state stage < bound)
    (failed : ∀ fault, answer.result = .failed fault → 6 * answer.state.lines + 7 < bound)
    (went : connector.advance call what attempt stage answer = ⟨.go next, later, events⟩) :
    later = answer.state ∧ rank tick later next.stage < bound := by
  unfold advance at went
  cases result : answer.result with
  | done =>
      rw [result] at went
      cases went
      exact ⟨rfl, done result⟩
  | failed fault =>
      rw [result] at went
      cases went
      exact ⟨rfl, failed fault result⟩
  | crashed =>
      rw [result] at went
      cases went

theorem pausing_of_discard (went : discard attempt script.close = ⟨.go next, later, events⟩) :
    later = script.close.state ∧ next.stage = .pausing := by
  unfold discard at went
  cases result : script.close.result with
  | crashed =>
      rw [result] at went
      cases went
  | _ =>
      rw [result] at went
      cases went
      exact ⟨rfl, rfl⟩

theorem rank_pause_lt (went : connector.pause tick attempt script = ⟨.go next, later, events⟩) :
    later = script ∧ rank tick later next.stage < 6 * script.lines + 6 := by
  have checking := rank_checking_le tick script
  unfold pause at went
  cases pacing : connector.pacing with
  | slept =>
      rw [pacing] at went
      cases went
      refine ⟨rfl, ?_⟩
      simp only [Attempt.enter, rank]
      split <;> omega
  | _ =>
      rw [pacing] at went
      cases went
      exact ⟨rfl, Nat.lt_of_le_of_lt checking (by omega)⟩

theorem rank_prepare_lt {failed : UInt64} (down : script.dialed = false)
    (went : connector.step tick ⟨failed, .checking⟩ script = ⟨.go next, later, events⟩) :
    later = script.prepare.state ∧
      rank tick later next.stage < rank tick script .checking := by
  have start : rank tick script .checking = 6 * script.lines + 3 := by
    simp only [rank, down, Bool.false_eq_true, if_false]
  rw [step_of_down connector tick failed down] at went
  rw [start]
  refine rank_advance_lt (fun _ => ?_) (fun fault refused => ?_) went
  · have prepared := script.lines_prepare_le
    show 6 * script.prepare.state.lines + 2 < _
    omega
  · have prepared := script.lines_prepare_lt (Cue.ne_succeed_of_failed refused)
    show 6 * script.prepare.state.lines + 7 < _
    omega

theorem rank_dial_lt {failed : UInt64}
    (went : connector.step tick ⟨failed, .dialing⟩ script = ⟨.go next, later, events⟩) :
    later = script.dial.state ∧ rank tick later next.stage < rank tick script .dialing := by
  rw [step_of_dialing] at went
  rw [rank.eq_def tick script .dialing]
  refine rank_advance_lt (fun _ => ?_) (fun fault refused => ?_) went
  · -- A dial that succeeds without a mark has used up a line, as one that fails has.
    by_cases good : Cue.next script.dialing = .succeed
    · have up : script.dial.state.dialed = true := by simp [Script.dial, good]
      have bound : rank tick script.dial.state .checking = 1 := if_pos up
      exact Nat.lt_of_le_of_lt (Nat.le_of_eq bound) (Nat.le_add_left 2 _)
    · have dialed := script.lines_dial_lt good
      have checking := rank_checking_le tick script.dial.state
      exact Nat.lt_of_le_of_lt checking (by simp only; omega)
  · have dialed := script.lines_dial_lt (Cue.ne_succeed_of_failed refused)
    show 6 * script.dial.state.lines + 7 < 6 * script.lines + 2
    omega

/-- A turn of connecting that goes on lowers the rank, and receives nothing. -/
theorem rank_step_lt
    (went : connector.step tick attempt script = ⟨.go next, later, events⟩) :
    rank tick later next.stage < rank tick script attempt.stage ∧
      later.arrivals = script.arrivals := by
  obtain ⟨failed, stage⟩ := attempt
  cases stage with
  | checking =>
      cases up : script.dialed with
      | true =>
          rw [step_of_up connector tick failed up] at went
          cases went
      | false =>
          obtain ⟨rfl, lower⟩ := rank_prepare_lt up went
          exact ⟨lower, rfl⟩
  | dialing =>
      obtain ⟨rfl, lower⟩ := rank_dial_lt went
      exact ⟨lower, rfl⟩
  | discarding =>
      obtain ⟨rfl, pausing⟩ := pausing_of_discard went
      rw [pausing]
      exact ⟨Nat.lt_succ_self _, rfl⟩
  | pausing =>
      obtain ⟨rfl, lower⟩ := rank_pause_lt went
      exact ⟨lower, rfl⟩
  | asleep wake =>
      by_cases due : wake ≤ tick
      · simp only [step, if_pos due] at went
        cases went
        have checking := rank_checking_le tick script
        refine ⟨Nat.lt_of_le_of_lt checking ?_, rfl⟩
        simp only [rank, if_pos due]
        omega
      · simp only [step, if_neg due] at went
        cases went

theorem asleep_of_waiting
    (waits : connector.step tick attempt script = ⟨.waiting, later, events⟩) :
    ∃ wake, attempt.stage = .asleep wake ∧ tick < wake ∧ later = script ∧ events = [] := by
  obtain ⟨failed, stage⟩ := attempt
  cases stage with
  | checking =>
      simp only [step, advance] at waits
      split at waits
      · cases waits
      · split at waits <;> cases waits
  | dialing =>
      simp only [step, advance] at waits
      split at waits <;> cases waits
  | discarding =>
      simp only [step, discard] at waits
      split at waits <;> cases waits
  | pausing =>
      simp only [step, pause] at waits
      split at waits <;> cases waits
  | asleep wake =>
      by_cases due : wake ≤ tick
      · simp only [step, if_pos due] at waits
        cases waits
      · simp only [step, if_neg due] at waits
        cases waits
        exact ⟨wake, rfl, Nat.lt_of_not_le due, rfl, rfl⟩

end Connector

/-! Receiving -/

namespace Responder

/-- A budget that is at work has something left. -/
def Sane (responder : Responder) : Phase → Prop
  | .listening budget => ∃ n, budget.Counts responder.threshold.toNat n
  | .receiving budget => ∃ n, budget.Counts responder.threshold.toNat n
  | .replying budget => ∃ n, budget.Counts responder.threshold.toNat n
  | _ => True

/-- Twice as many rounds as there may be failures after the last line, and three turns for each
line before that. -/
def hearing (responder : Responder) (script : Script) (budget : Budget) : Nat :=
  if script.arrivals = [] then 2 * (responder.threshold.toNat - budget.consecutive.toNat)
  else 3 * script.arrivals.length + 2 * responder.threshold.toNat

/-- More turns than a responder can go on for, as far as it has come. -/
def rank (responder : Responder) (tick : Nat) (script : Script) : Phase → Nat
  | .starting => 6 * script.lines + 3 * script.arrivals.length + 2 * responder.threshold.toNat + 5
  | .connecting attempt =>
      Connector.rank tick script attempt.stage + 3 * script.arrivals.length
        + 2 * responder.threshold.toNat + 1
  | .listening budget => responder.hearing script budget + 1
  | .receiving budget => responder.hearing script budget
  | .replying budget => responder.hearing script budget + 2
  | .closing _ => 1

variable {responder : Responder} {date : Calendar.Instant} {tick : Nat} {script later : Script}
  {phase next : Phase} {budget : Budget} {events : List Event}

theorem hearing_le (responder : Responder) (script : Script) (budget : Budget) :
    responder.hearing script budget ≤
      3 * script.arrivals.length + 2 * responder.threshold.toNat := by
  rw [hearing]
  split <;> omega

theorem sane_listen (responder : Responder) : responder.Sane responder.listen :=
  ⟨0, Budget.counts_new responder.maxFailures⟩

theorem rank_of_finished {attempt : Attempt} {failed : UInt64}
    (ended : responder.connector.step tick attempt script = ⟨.finished failed, later, events⟩) :
    later = script ∧ Connector.rank tick script attempt.stage = 1 := by
  obtain ⟨checking, dialed⟩ := Connector.dialed_of_finished (congrArg Turn.verdict ended)
  obtain ⟨n, stage⟩ := attempt
  obtain rfl : stage = .checking := checking
  rw [responder.connector.step_of_up tick n dialed] at ended
  cases ended
  exact ⟨rfl, if_pos dialed⟩

/-- What follows a failed receive, after which at least so many arrivals are left. -/
theorem rank_failReceive_lt {n : Nat} (counts : budget.Counts responder.threshold.toNat n)
    (fault : ChannelFault)
    (lower : budget.recordFailure.consecutive.toNat = n + 1 → n + 1 < responder.threshold.toNat →
      responder.hearing later budget.recordFailure + 1 < bound) (some : 1 < bound) :
    let next := (responder.failReceive budget fault).1
    responder.Sane next ∧ responder.rank tick later next < bound := by
  by_cases last : responder.threshold.toNat ≤ n + 1
  · simp only [responder.failReceive_phase counts, if_pos (Nat.le_antisymm counts.below last)]
    exact ⟨trivial, some⟩
  · have more := Nat.lt_of_not_le last
    simp only [responder.failReceive_phase counts, if_neg (Nat.ne_of_lt more)]
    exact ⟨⟨_, (counts.recordFailure more).1⟩, lower counts.consecutive_recordFailure more⟩

theorem rank_accept_lt {n : Nat} (counts : budget.Counts responder.threshold.toNat n)
    (bytes : Bytes) (lower : responder.hearing later budget.reset + 2 < bound) :
    let next := (responder.accept date budget bytes).1
    responder.Sane next ∧ responder.rank tick later next < bound := by
  unfold accept
  split
  · exact ⟨⟨0, counts.reset⟩, lower⟩
  · exact ⟨⟨0, counts.reset⟩, Nat.lt_of_succ_lt lower⟩

theorem rank_receive_lt {n : Nat} (counts : budget.Counts responder.threshold.toNat n)
    (went : responder.receive date budget script = ⟨.go next, later, events⟩) :
    responder.Sane next ∧ responder.rank tick later next < responder.hearing script budget := by
  have below := counts.below
  have spent := counts.consecutive
  have whole (budget : Budget) := responder.hearing_le later budget
  obtain ⟨silent, met, -⟩ | ⟨none, met⟩ | ⟨arrival, rest, some, -, met⟩ := script.receive_cases
  · have answer : Channel.receive script = ⟨.waiting, silent, []⟩ := met
    simp only [receive, answer] at went
    cases went
  · have answer : Channel.receive script = ⟨.failed .closed, script, []⟩ := met
    simp only [receive, answer] at went
    cases went
    refine rank_failReceive_lt counts _ (fun recorded _ => ?_) ?_
    · simp only [hearing, none, if_true, recorded]
      omega
    · simp only [hearing, none, if_true]
      omega
  · have answer : Channel.receive script =
        ⟨arrival.reception, { script with arrivals := rest }, []⟩ := met
    have start : responder.hearing script budget =
        3 * (rest.length + 1) + 2 * responder.threshold.toNat := by
      rw [hearing, some, if_neg (List.cons_ne_nil arrival rest), List.length_cons]
    rw [start]
    cases arrival with
    | datagram bytes =>
        simp only [receive, answer, Arrival.reception] at went
        cases went
        refine rank_accept_lt counts bytes ?_
        refine Nat.lt_of_le_of_lt (Nat.add_le_add_right (whole _) 2) ?_
        simp only
        omega
    | fault fault =>
        simp only [receive, answer, Arrival.reception] at went
        cases went
        refine rank_failReceive_lt counts _ (fun _ _ => ?_) (by omega)
        refine Nat.lt_of_le_of_lt (Nat.add_le_add_right (whole _) 1) ?_
        simp only
        omega
    | silence =>
        simp only [receive, answer, Arrival.reception] at went
        cases went
    | crash =>
        simp only [receive, answer, Arrival.reception] at went
        cases went

theorem rank_start_lt (went : responder.start script = ⟨.go next, later, events⟩) :
    responder.Sane next ∧
      responder.rank tick later next < responder.rank tick script .starting := by
  unfold start at went
  split at went
  · cases went
    have bound := responder.hearing_le script (.new responder.maxFailures)
    refine ⟨responder.sane_listen, ?_⟩
    rw [listen, rank, rank]
    omega
  · cases went
    have bound : Connector.rank tick script ({} : Attempt).stage ≤ 6 * script.lines + 3 :=
      Connector.rank_checking_le tick script
    refine ⟨trivial, ?_⟩
    rw [rank, rank]
    omega

theorem rank_connect_lt {attempt : Attempt}
    (went : responder.connect tick attempt script = ⟨.go next, later, events⟩) :
    responder.Sane next ∧
      responder.rank tick later next < responder.rank tick script (.connecting attempt) := by
  unfold connect at went
  cases turn : responder.connector.step tick attempt script with
  | mk verdict channel made =>
      rw [turn] at went
      cases verdict with
      | go attempt' =>
          cases went
          obtain ⟨lower, same⟩ := Connector.rank_step_lt turn
          refine ⟨trivial, ?_⟩
          simp only [rank, same]
          omega
      | finished failed =>
          cases went
          obtain ⟨same, up⟩ := rank_of_finished turn
          have bound := responder.hearing_le script (.new responder.maxFailures)
          refine ⟨responder.sane_listen, ?_⟩
          simp only [listen, rank, up, same]
          omega
      | waiting => cases went
      | crashed => cases went

theorem rank_step_lt (sane : responder.Sane phase)
    (went : responder.step date tick phase script = ⟨.go next, later, events⟩) :
    responder.Sane next ∧ responder.rank tick later next < responder.rank tick script phase := by
  cases phase with
  | starting => exact rank_start_lt went
  | connecting attempt => exact rank_connect_lt went
  | listening budget =>
      cases went
      exact ⟨sane, Nat.lt_succ_self _⟩
  | receiving budget =>
      obtain ⟨n, counts⟩ := sane
      exact rank_receive_lt counts went
  | replying budget =>
      have goes : next = (responder.conclude budget).1 ∧ later = script.send.state := by
        simp only [step, reply] at went
        split at went <;> cases went <;> exact ⟨rfl, rfl⟩
      obtain ⟨rfl, rfl⟩ := goes
      unfold conclude
      cases responder.role with
      | health => exact ⟨sane, Nat.lt_succ_self _⟩
      | termination =>
          refine ⟨trivial, ?_⟩
          rw [rank, rank]
          omega
  | closing exit =>
      simp only [step, close] at went
      split at went <;> cases went

theorem rank_awake_lt (responder : Responder) (script : Script) (failed : UInt64)
    {wake : Nat}
    (early : tick < wake) :
    responder.rank wake script (.connecting ⟨failed, .asleep wake⟩) <
      responder.rank tick script (.connecting ⟨failed, .asleep wake⟩) := by
  simp only [rank, Connector.rank, if_neg (Nat.not_le_of_lt early), Nat.le_refl, if_true]
  omega

/-- A responder waits for a time, or for more to receive. -/
theorem waiting_cases (waits : responder.step date tick phase script = ⟨.waiting, later, events⟩) :
    events = [] ∧
      ((∃ failed wake, phase = .connecting ⟨failed, .asleep wake⟩ ∧ tick < wake ∧
          later = script) ∨
        (∃ budget, phase = .receiving budget) ∧ later.receive = ⟨.waiting, later, []⟩) := by
  cases phase with
  | starting =>
      simp only [step, start] at waits
      split at waits <;> cases waits
  | connecting attempt =>
      simp only [step, connect] at waits
      split at waits <;> cases waits
      rename_i waits
      obtain ⟨wake, asleep, early, same, quiet⟩ := Connector.asleep_of_waiting
        (show responder.connector.step tick attempt script = ⟨.waiting, _, _⟩ by rw [← waits])
      obtain ⟨failed, stage⟩ := attempt
      obtain rfl : stage = .asleep wake := asleep
      exact ⟨quiet, .inl ⟨failed, wake, rfl, early, same⟩⟩
  | listening budget => cases waits
  | receiving budget =>
      have answered : Channel.receive script = script.receive := rfl
      simp only [step, receive, answered] at waits
      obtain ⟨silent, met, still⟩ | ⟨none, met⟩ | ⟨arrival, rest, some, sound, met⟩ :=
        script.receive_cases
      · rw [met] at waits
        cases waits
        exact ⟨rfl, .inr ⟨⟨budget, rfl⟩, still⟩⟩
      · rw [met] at waits
        cases waits
      · rw [met] at waits
        cases arrival with
        | silence => exact absurd rfl sound
        | _ => cases waits
  | replying budget =>
      simp only [step, reply] at waits
      split at waits <;> cases waits
  | closing exit =>
      simp only [step, close] at waits
      split at waits <;> cases waits

theorem threshold_le (responder : Responder) :
    responder.threshold.toNat ≤ responder.maxFailures.toNat + 1 := by
  rw [threshold, Budget.max_new]
  split
  · exact Nat.le_add_left 1 _
  · exact Nat.le_succ _

theorem rank_lt_patience (job : Job Script) (tick : Nat) (phase : Phase) :
    job.responder.rank tick job.channel phase < job.patience := by
  obtain ⟨responder, script, status⟩ := job
  have threshold := responder.threshold_le
  have hearing (budget : Budget) := responder.hearing_le script budget
  simp only [Job.patience, Script.length]
  cases phase with
  | starting =>
      simp only [rank, Script.lines]
      omega
  | connecting attempt =>
      have asleep : Connector.rank tick script attempt.stage ≤ 6 * script.lines + 7 := by
        cases attempt.stage <;> simp only [Connector.rank] <;> first | omega | (split <;> omega)
      simp only [rank, Script.lines] at asleep ⊢
      omega
  | listening budget =>
      have bound := hearing budget
      rw [rank]
      omega
  | receiving budget =>
      have bound := hearing budget
      rw [rank]
      omega
  | replying budget =>
      have bound := hearing budget
      rw [rank]
      omega
  | closing exit =>
      rw [rank]
      omega

end Responder

end Heartbeat
