import Heartbeat.Responder.Job

/-!
Rows of turns that go on, apart from how much fuel there is. A run with enough fuel makes such a
row and then does what a run from its end does; with less fuel it makes the first part of the row.
-/

namespace Heartbeat

/-! What others see -/

namespace Event

/-- Notices stay inside the program. -/
def isOutward : Event → Bool
  | .notice _ => false
  | _ => true

end Event

/-- What others see of a row of events. -/
def outward (events : List Event) : List Event :=
  events.filter Event.isOutward

@[simp] theorem outward_append (events more : List Event) :
    outward (events ++ more) = outward events ++ outward more :=
  List.filter_append ..

@[simp] theorem outward_nil : outward [] = [] := rfl

@[simp] theorem outward_notice (notice : Notice) (events : List Event) :
    outward (.notice notice :: events) = outward events := rfl

@[simp] theorem outward_call (call : Call) (events : List Event) :
    outward (.call call :: events) = .call call :: outward events := rfl

@[simp] theorem outward_milestone (milestone : Milestone) (events : List Event) :
    outward (.milestone milestone :: events) = .milestone milestone :: outward events := rfl

/-! Rows of turns -/

/-- Where a run is: the time on the clock, the state of the work and the channel. -/
structure Standing (C σ : Type) where
  tick : Nat
  state : σ
  channel : C

/-- A row of turns after each of which the work goes on, or sleeps until a time that comes. -/
inductive Goes (step : Nat → σ → C → Turn C σ α) (wake? : σ → Option Nat)
    (horizon : Option Nat) : Nat → Standing C σ → List Event → Standing C σ → Prop where
  | here : Goes step wake? horizon 0 standing [] standing
  | turn (made : step tick state channel = ⟨.go next, channel', events⟩)
      (others : Goes step wake? horizon n ⟨tick, next, channel'⟩ more standing) :
      Goes step wake? horizon (n + 1) ⟨tick, state, channel⟩ (events ++ more) standing
  | sleep (made : step tick state channel = ⟨.waiting, channel', events⟩)
      (wakes : wake? state = some wake) (inTime : horizon.all (wake ≤ ·))
      (others : Goes step wake? horizon n ⟨max tick wake, state, channel'⟩ more standing) :
      Goes step wake? horizon (n + 1) ⟨tick, state, channel⟩ (events ++ more) standing

namespace Goes

variable {step : Nat → σ → C → Turn C σ α} {wake? : σ → Option Nat} {horizon : Option Nat}

theorem one (made : step tick state channel = ⟨.go next, channel', events⟩) :
    Goes step wake? horizon 1 ⟨tick, state, channel⟩ events ⟨tick, next, channel'⟩ := by
  have row : Goes step wake? horizon 1 ⟨tick, state, channel⟩ (events ++ [])
      ⟨tick, next, channel'⟩ := .turn made .here
  rwa [List.append_nil] at row

theorem trans {start middle finish : Standing C σ}
    (first : Goes step wake? horizon n start events middle)
    (second : Goes step wake? horizon m middle more finish) :
    Goes step wake? horizon (n + m) start (events ++ more) finish := by
  induction first with
  | here => rwa [Nat.zero_add, List.nil_append]
  | turn made _ ih =>
      rw [Nat.add_right_comm, List.append_assoc]
      exact .turn made (ih second)
  | sleep made wakes inTime _ ih =>
      rw [Nat.add_right_comm, List.append_assoc]
      exact .sleep made wakes inTime (ih second)

theorem run {start finish : Standing C σ}
    (row : Goes step wake? horizon n start events finish) (fuel : Nat) :
    runTurns step wake? horizon (n + fuel) start.tick start.state start.channel =
      (runTurns step wake? horizon fuel finish.tick finish.state finish.channel).after events := by
  induction row with
  | here =>
      rw [Nat.zero_add]
      rfl
  | turn made _ ih =>
      rw [Nat.add_right_comm, runTurns]
      simp only [made, ih, Run.after, List.append_assoc]
  | sleep made wakes inTime _ ih =>
      rw [Nat.add_right_comm, runTurns]
      simp only [made, wakes, if_pos inTime, ih, Run.after, List.append_assoc]

/-- With too little fuel for the whole row, a run stops on its way along it. -/
theorem run_short {start finish : Standing C σ}
    (row : Goes step wake? horizon n start events finish) {fuel : Nat} (short : fuel ≤ n) :
    ∃ stop : Standing C σ, ∃ seen, seen <+: events ∧
      runTurns step wake? horizon fuel start.tick start.state start.channel =
        ⟨stop.state, .go stop.state, stop.channel, seen, stop.tick⟩ := by
  induction row generalizing fuel with
  | @here standing =>
      have dry : fuel = 0 := Nat.le_zero.mp short
      subst dry
      exact ⟨standing, [], List.nil_prefix, rfl⟩
  | @turn _ _ _ _ _ events _ _ _ made _ ih =>
      cases fuel with
      | zero => exact ⟨⟨_, _, _⟩, [], List.nil_prefix, rfl⟩
      | succ fuel =>
          obtain ⟨stop, seen, part, ran⟩ := ih (Nat.le_of_succ_le_succ short)
          refine ⟨stop, events ++ seen, (List.prefix_append_right_inj events).mpr part, ?_⟩
          rw [runTurns]
          simp only [made, ran, Run.after]
  | @sleep _ _ _ _ events _ _ _ _ made wakes inTime _ ih =>
      cases fuel with
      | zero => exact ⟨⟨_, _, _⟩, [], List.nil_prefix, rfl⟩
      | succ fuel =>
          obtain ⟨stop, seen, part, ran⟩ := ih (Nat.le_of_succ_le_succ short)
          refine ⟨stop, events ++ seen, (List.prefix_append_right_inj events).mpr part, ?_⟩
          rw [runTurns]
          simp only [made, wakes, if_pos inTime, ran, Run.after]

theorem run_finished {start finish : Standing C σ}
    (row : Goes step wake? horizon n start events finish)
    (made : step finish.tick finish.state finish.channel = ⟨.finished value, channel, last⟩)
    {fuel : Nat} (enough : n < fuel) :
    runTurns step wake? horizon fuel start.tick start.state start.channel =
      ⟨finish.state, .finished value, channel, events ++ last, finish.tick⟩ := by
  obtain ⟨spare, rfl⟩ := Nat.exists_eq_add_of_lt enough
  rw [Nat.add_assoc, row.run, runTurns]
  simp only [made, Run.after]

theorem run_crashed {start finish : Standing C σ}
    (row : Goes step wake? horizon n start events finish)
    (made : step finish.tick finish.state finish.channel = ⟨.crashed, channel, last⟩)
    {fuel : Nat} (enough : n < fuel) :
    runTurns step wake? horizon fuel start.tick start.state start.channel =
      ⟨finish.state, .crashed, channel, events ++ last, finish.tick⟩ := by
  obtain ⟨spare, rfl⟩ := Nat.exists_eq_add_of_lt enough
  rw [Nat.add_assoc, row.run, runTurns]
  simp only [made, Run.after]

theorem run_waiting {start finish : Standing C σ}
    (row : Goes step wake? horizon n start events finish)
    (made : step finish.tick finish.state finish.channel = ⟨.waiting, channel, last⟩)
    (forever : wake? finish.state = none) {fuel : Nat} (enough : n < fuel) :
    runTurns step wake? horizon fuel start.tick start.state start.channel =
      ⟨finish.state, .waiting, channel, events ++ last, finish.tick⟩ := by
  obtain ⟨spare, rfl⟩ := Nat.exists_eq_add_of_lt enough
  rw [Nat.add_assoc, row.run, runTurns]
  simp only [made, forever, Run.after]

theorem forall_events {property : Event → Prop} {start finish : Standing C σ}
    (row : Goes step wake? horizon n start events finish)
    (each : ∀ tick state channel, ∀ event ∈ (step tick state channel).events, property event) :
    ∀ event ∈ events, property event := by
  induction row with
  | here =>
      intro event member
      exact absurd member List.not_mem_nil
  | @turn tick state channel _ _ _ _ _ _ made _ ih =>
      intro event member
      rcases List.mem_append.mp member with first | later
      · exact each tick state channel event (by rw [made]; exact first)
      · exact ih event later
  | @sleep tick state channel _ _ _ _ _ _ made _ _ _ ih =>
      intro event member
      rcases List.mem_append.mp member with first | later
      · exact each tick state channel event (by rw [made]; exact first)
      · exact ih event later

end Goes

theorem Responder.goes_of_step [Channel C] {responder : Responder} {clock : Clock}
    {wake? : Post → Option Nat} {horizon : Option Nat} {channel : C}
    (made : responder.step (clock turns) tick phase channel = ⟨.go next, channel', events⟩) :
    Goes (responder.turn clock) wake? horizon 1 ⟨tick, ⟨phase, turns⟩, channel⟩ events
      ⟨tick, ⟨next, turns + 1⟩, channel'⟩ := by
  refine Goes.one ?_
  simp only [turn, made, Verdict.map_go]

/-! Jobs -/

theorem Status.exists_phase {status : Status} (running : status.isRunning) :
    ∃ phase, status = .running phase := by
  cases status with
  | running phase => exact ⟨phase, rfl⟩
  | _ => cases running

namespace Job

section

variable [Channel C] {clock : Clock} {tick : Nat} {job : Job C}

def turn (clock : Clock) (tick : Nat) (job : Job C) : Job C × List Event :=
  match job.status with
  | .running phase =>
      let turn := job.responder.step (clock job.turns) tick phase job.channel
      ({ job with
          channel := turn.channel
          status := .ofVerdict phase turn.verdict
          turns := job.turns + turn.verdict.goesOn.toNat },
        turn.events)
  | _ => (job, [])

theorem turn_of_running {phase : Phase} (running : job.status = .running phase) :
    let turn := job.responder.step (clock job.turns) tick phase job.channel
    job.turn clock tick =
      ({ job with
          channel := turn.channel
          status := .ofVerdict phase turn.verdict
          turns := job.turns + turn.verdict.goesOn.toNat },
        turn.events) := by
  rw [Job.turn, running]

theorem turn_of_ended (ended : job.status.isRunning = false) (clock : Clock) (tick : Nat) :
    job.turn clock tick = (job, []) := by
  unfold Job.turn
  split
  · rename_i phase running
    rw [running] at ended
    cases ended
  · rfl

theorem runTurns_keeps (holds : List Event → Job C → Prop)
    (keeps : ∀ events tick job, job.status.isRunning → holds events job →
      holds (events ++ (job.turn clock tick).2) (job.turn clock tick).1)
    (horizon : Option Nat) (fuel tick : Nat) (post : Post) {responder : Responder}
    {events : List Event} {channel : C}
    (before : holds events ⟨responder, channel, .running post.phase, post.turns⟩) :
    let run := runTurns (responder.turn clock) Responder.wake? horizon fuel tick post channel
    holds (events ++ run.events)
      ⟨responder, run.channel, .ofVerdict run.state.phase (run.verdict.map Post.phase),
        run.state.turns⟩ := by
  induction fuel generalizing events tick post channel with
  | zero =>
      simp only [runTurns, List.append_nil]
      exact before
  | succ fuel ih =>
      obtain ⟨phase, turns⟩ := post
      have kept := keeps events tick _ rfl before
      rw [turn_of_running rfl] at kept
      simp only [runTurns, Responder.turn]
      cases made : responder.step (clock turns) tick phase channel with
      | mk verdict channel' more =>
          simp only [made] at kept
          cases verdict with
          | go next =>
              have led : holds (events ++ more)
                  ⟨responder, channel', .running next, turns + 1⟩ := kept
              simpa only [Verdict.map_go, Run.after, List.append_assoc] using
                ih tick ⟨next, turns + 1⟩ led
          | waiting =>
              have waits : holds (events ++ more)
                  ⟨responder, channel', .running phase, turns⟩ := kept
              simp only [Verdict.map_waiting]
              split
              · cases ‹Verdict.waiting = _›
              · split
                · simpa only [Run.after, List.append_assoc] using
                    ih _ ⟨phase, turns⟩ waits
                · exact waits
              · exact waits
          | finished exit => exact kept
          | crashed => exact kept

theorem run_of_ended (ended : job.status.isRunning = false) (horizon : Option Nat) (fuel : Nat)
    (clock : Clock) (tick : Nat) : job.run horizon fuel clock tick = ⟨job, [], tick, false⟩ := by
  obtain ⟨responder, channel, status, turns⟩ := job
  cases status with
  | running phase => cases ended
  | _ => rfl

/-- What holds of the events so far and of the job, and is kept by every turn that the job makes,
is kept by its runs. -/
theorem run_keeps (holds : List Event → Job C → Prop)
    (keeps : ∀ events tick job, job.status.isRunning → holds events job →
      holds (events ++ (job.turn clock tick).2) (job.turn clock tick).1)
    (start : holds [] job) (horizon : Option Nat) (fuel tick : Nat) :
    let progress := job.run horizon fuel clock tick
    holds progress.events progress.job := by
  obtain ⟨responder, channel, status, turns⟩ := job
  cases status with
  | running phase => exact runTurns_keeps holds keeps horizon fuel tick ⟨phase, turns⟩ start
  | finished exit => exact start
  | crashed => exact start
  | aborted => exact start

end

end Job

end Heartbeat
