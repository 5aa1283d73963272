import Heartbeat.Proofs.Responder.Moves
import Heartbeat.Proofs.Responder.Patience

/-!
Coming to rest. A job rests when its turns would do nothing any more, up to a time. There is only
one way to get there, whatever idle turns are made before and however time passes in between; and
a job that is run gets there.
-/

namespace Heartbeat

namespace Job

section

variable [Channel C]

def Idles (clock : Clock) (tick : Nat) (job : Job C) : Prop :=
  job.turn clock tick = (job, [])

def Rests (clock : Clock) (horizon : Option Nat) (tick : Nat) (job : Job C) : Prop :=
  ∀ later, tick ≤ later → horizon.all (later ≤ ·) → job.Idles clock later

/-- Turns that bring a job to rest. Time passes only while the job idles. -/
inductive Settles (clock : Clock) (horizon : Option Nat) :
    Nat → Job C → List Event → Job C → Prop
  | rest (rests : job.Rests clock horizon tick) : Settles clock horizon tick job [] job
  | turn (others : Settles clock horizon tick (job.turn clock tick).1 events last) :
      Settles clock horizon tick job ((job.turn clock tick).2 ++ events) last
  | pass (early : tick ≤ later) (inTime : horizon.all (later ≤ ·))
      (idles : ∀ time, tick ≤ time → time < later → job.Idles clock time)
      (others : Settles clock horizon later job events last) :
      Settles clock horizon tick job events last

namespace Settles

variable {clock : Clock} {horizon : Option Nat} {tick later : Nat}
  {job last last' : Job C} {events events' : List Event}

theorem first {next : Job C} (turned : job.turn clock tick = (next, events))
    (others : Settles clock horizon tick next events' last) :
    Settles clock horizon tick job (events ++ events') last := by
  have row : Settles clock horizon tick job ((job.turn clock tick).2 ++ events') last :=
    .turn (by rwa [turned])
  rwa [turned] at row

theorem only (turned : job.turn clock tick = (last, events))
    (rests : last.Rests clock horizon tick) : Settles clock horizon tick job events last := by
  have row := first turned (.rest rests)
  rwa [List.append_nil] at row

theorem postpone (settles : Settles clock horizon tick job events last) (early : tick ≤ later)
    (idles : ∀ time, tick ≤ time → time < later → job.Idles clock time) :
    Settles clock horizon later job events last := by
  induction settles generalizing later with
  | rest rests => exact .rest fun time after => rests time (Nat.le_trans early after)
  | @turn tick events last job others ih =>
      obtain rfl | before := Nat.eq_or_lt_of_le early
      · exact .turn others
      · have idle : job.turn clock tick = (job, []) := idles tick (Nat.le_refl _) before
        rw [idle] at ih ⊢
        exact ih early idles
  | @pass tick later' job events last early' inTime idles' others ih =>
      obtain sooner | after := Nat.le_total later later'
      · exact .pass sooner inTime (fun time from' => idles' time (Nat.le_trans early from')) others
      · exact ih after fun time from' => idles time (Nat.le_trans early' from')

theorem after_turn (settles : Settles clock horizon tick job events last)
    (inTime : horizon.all (tick ≤ ·)) :
    ∃ rest, events = (job.turn clock tick).2 ++ rest ∧
      Settles clock horizon tick (job.turn clock tick).1 rest last := by
  induction settles with
  | @rest tick job rests =>
      have idle : job.turn clock tick = (job, []) := rests tick (Nat.le_refl _) inTime
      rw [idle]
      exact ⟨[], rfl, .rest rests⟩
  | turn others => exact ⟨_, rfl, others⟩
  | @pass tick later job events last early inTime' idles others ih =>
      obtain rfl | before := Nat.eq_or_lt_of_le early
      · exact ih inTime'
      · have idle : job.turn clock tick = (job, []) := idles tick (Nat.le_refl _) before
        rw [idle]
        exact ⟨events, rfl, .pass early inTime' idles others⟩

theorem of_rests (settles : Settles clock horizon tick job events last)
    (inTime : horizon.all (tick ≤ ·)) (rests : job.Rests clock horizon tick) :
    events = [] ∧ last = job := by
  induction settles with
  | rest => exact ⟨rfl, rfl⟩
  | @turn tick events last job others ih =>
      have idle : job.turn clock tick = (job, []) := rests tick (Nat.le_refl _) inTime
      rw [idle] at ih ⊢
      exact ih inTime rests
  | pass early inTime' _ _ ih =>
      exact ih inTime' fun time after => rests time (Nat.le_trans early after)

theorem unique (settles : Settles clock horizon tick job events last)
    (settles' : Settles clock horizon tick job events' last') (inTime : horizon.all (tick ≤ ·)) :
    events = events' ∧ last = last' := by
  induction settles generalizing events' last' with
  | rest rests =>
      obtain ⟨none, same⟩ := settles'.of_rests inTime rests
      exact ⟨none.symm, same.symm⟩
  | turn others ih =>
      obtain ⟨rest, rfl, others'⟩ := settles'.after_turn inTime
      obtain ⟨rfl, same⟩ := ih others' inTime
      exact ⟨rfl, same⟩
  -- Time passes first, and the other row waits as long: the job idles in the meantime.
  | pass early inTime' idles others ih => exact ih (settles'.postpone early idles) inTime'

/-- What has settled has nothing left to do before the horizon. -/
theorem rests (settles : Settles clock horizon tick job events last)
    (inTime : horizon.all (tick ≤ ·)) :
    ∃ time, tick ≤ time ∧ horizon.all (time ≤ ·) ∧ last.Rests clock horizon time := by
  induction settles with
  | rest rests => exact ⟨_, Nat.le_refl _, inTime, rests⟩
  | turn _ ih => exact ih inTime
  | pass early inTime' _ _ ih =>
      obtain ⟨time, after, before, rests⟩ := ih inTime'
      exact ⟨time, Nat.le_trans early after, before, rests⟩

end Settles

theorem rests_of_ended {job : Job C} (ended : job.status.isRunning = false)
    (clock : Clock) (horizon : Option Nat) (tick : Nat) :
    job.Rests clock horizon tick :=
  fun later _ _ => turn_of_ended ended clock later

end

/-! Runs -/

def Sane (job : Job Script) : Prop :=
  ∀ phase, job.status = .running phase → job.responder.Sane phase

theorem Sane.of_ended {job : Job Script} (ended : job.status.isRunning = false) : job.Sane := by
  intro phase running
  rw [running] at ended
  exact absurd ended.symm Bool.false_ne_true

theorem Sane.running {responder : Responder} {script : Script} {phase : Phase} {turns : Nat}
    (sane : responder.Sane phase) : Job.Sane ⟨responder, script, .running phase, turns⟩ := by
  rintro phase ⟨⟩
  exact sane

theorem Sane.abort {job : Job Script} (sane : job.Sane) : job.abort.Sane := by
  unfold Job.abort
  split
  · exact .of_ended rfl
  · exact sane

variable {clock : Clock}

theorem idles_of_waiting {responder : Responder} {script : Script} {phase : Phase}
    {turns tick : Nat}
    (waits : responder.step (clock turns) tick phase script = ⟨.waiting, script, []⟩) :
    Idles clock tick ⟨responder, script, .running phase, turns⟩ := by
  rw [Idles, turn_of_running rfl]
  simp only [waits, Status.ofVerdict]
  rfl

theorem idles_asleep (responder : Responder) (script : Script) (failed : UInt64)
    {turns tick wake : Nat} (early : tick < wake) :
    Idles clock tick ⟨responder, script, .running (.connecting ⟨failed, .asleep wake⟩), turns⟩ := by
  refine idles_of_waiting ?_
  simp only [Responder.step, Responder.connect, Connector.step, if_neg (Nat.not_le_of_lt early)]

theorem idles_in_silence (responder : Responder) {script : Script} (budget : Budget)
    (turns tick : Nat) (silent : script.receive = ⟨.waiting, script, []⟩) :
    Idles clock tick ⟨responder, script, .running (.receiving budget), turns⟩ := by
  have answer : Channel.receive script = ⟨.waiting, script, []⟩ := silent
  refine idles_of_waiting ?_
  simp only [Responder.step, Responder.receive, answer, List.map_nil]

/-- A job that sleeps beyond the time that matters does not wake up in it. -/
theorem rests_asleep (responder : Responder) (script : Script) (failed : UInt64)
    {horizon : Option Nat} {wake : Nat} (late : ¬ horizon.all (wake ≤ ·)) (turns tick : Nat) :
    Rests clock horizon tick
      ⟨responder, script, .running (.connecting ⟨failed, .asleep wake⟩), turns⟩ := by
  intro time _ before
  refine idles_asleep responder script failed (Nat.lt_of_not_le fun due => ?_)
  cases horizon with
  | none => exact late rfl
  | some horizon =>
      rw [Option.all_some, decide_eq_true_eq] at late before
      exact late (Nat.le_trans due before)

theorem settles_of_turns (responder : Responder) (horizon : Option Nat) {fuel turns tick : Nat}
    {phase : Phase} {script : Script} (sane : responder.Sane phase)
    (enough : responder.rank tick script phase < fuel) :
    let run := runTurns (responder.turn clock) Responder.wake? horizon fuel tick ⟨phase, turns⟩
      script
    let last : Job Script :=
      ⟨responder, run.channel, .ofVerdict run.state.phase (run.verdict.map Post.phase),
        run.state.turns⟩
    Settles clock horizon tick ⟨responder, script, .running phase, turns⟩ run.events last ∧
      last.Sane := by
  induction fuel generalizing turns tick phase script with
  | zero => exact absurd enough (Nat.not_lt_zero _)
  | succ fuel ih =>
      let job : Job Script := ⟨responder, script, .running phase, turns⟩
      cases made : responder.step (clock turns) tick phase script with
      | mk verdict channel events =>
          have turned : job.turn clock tick =
              (⟨responder, channel, .ofVerdict phase verdict, turns + verdict.goesOn.toNat⟩,
                events) := by
            have running : job.status = .running phase := rfl
            rw [turn_of_running running]
            simp only [job, made]
          rw [runTurns, Responder.turn]
          simp only [made]
          cases verdict with
          | go next =>
              obtain ⟨sane', lower⟩ := Responder.rank_step_lt sane made
              obtain ⟨row, sane''⟩ :=
                @ih (turns + 1) _ _ _ sane' (Nat.lt_of_lt_of_le lower (Nat.le_of_lt_succ enough))
              exact ⟨.first turned row, sane''⟩
          | finished exit =>
              exact ⟨.only turned (rests_of_ended rfl clock horizon tick), .of_ended rfl⟩
          | crashed => exact ⟨.only turned (rests_of_ended rfl clock horizon tick), .of_ended rfl⟩
          | waiting =>
              obtain ⟨rfl, asleep | ⟨⟨budget, rfl⟩, silent⟩⟩ := Responder.waiting_cases made
              · obtain ⟨failed, wake, rfl, early, rfl⟩ := asleep
                simp only [Verdict.map_waiting, Responder.wake?, Connector.wake?]
                by_cases inTime : horizon.all (wake ≤ ·)
                · have lower := responder.rank_awake_lt channel failed early
                  obtain ⟨row, sane'⟩ :=
                    @ih turns _ _ _ sane (Nat.lt_of_lt_of_le lower (Nat.le_of_lt_succ enough))
                  rw [if_pos inTime, Nat.max_eq_right (Nat.le_of_lt early)]
                  refine ⟨.pass (Nat.le_of_lt early) inTime (fun time _ before => ?_) row, sane'⟩
                  exact idles_asleep responder channel failed before
                · rw [if_neg inTime]
                  exact ⟨.rest (rests_asleep responder channel failed inTime turns tick),
                    .running sane⟩
              · exact ⟨.only turned fun time _ _ =>
                  idles_in_silence responder budget turns time silent, .running sane⟩

/-- Patience is enough for a job to come to rest. -/
theorem settles_of_run (clock : Clock) {job : Job Script} (sane : job.Sane)
    (horizon : Option Nat) (tick : Nat) :
    let progress := job.run horizon job.patience clock tick
    Settles clock horizon tick job progress.events progress.job ∧ progress.job.Sane := by
  obtain ⟨responder, script, status, turns⟩ := job
  cases status with
  | running phase =>
      exact settles_of_turns responder horizon (sane phase rfl)
        (Responder.rank_lt_patience ⟨responder, script, .running phase, turns⟩ tick phase)
  | _ => exact ⟨.rest (rests_of_ended rfl clock horizon tick), sane⟩

end Job

end Heartbeat
