import Heartbeat.Proofs.Responder.Settling

/-!
Both jobs at once. Their turns may come in any order, by a clock that goes on only while neither
has anything to do; what comes of a step does not depend on the order.
-/

namespace Heartbeat

namespace Bus.Scripted

/-- Turns of both jobs, one at a time, until neither has anything left to do. -/
inductive Weaves (clock : Role → Clock) (horizon : Option Nat) :
    Scripted → List Event → List Event → Scripted → Prop
  | rest (health : bus.health.Rests (clock .health) horizon bus.tick)
      (termination : bus.termination.Rests (clock .termination) horizon bus.tick) :
      Weaves clock horizon bus [] [] bus
  | health (others : Weaves clock horizon (bus.make clock (.health bus.tick)) healths terms last) :
      Weaves clock horizon bus ((bus.health.turn (clock .health) bus.tick).2 ++ healths) terms last
  | termination
      (others : Weaves clock horizon (bus.make clock (.termination bus.tick)) healths terms last) :
      Weaves clock horizon bus healths
        ((bus.termination.turn (clock .termination) bus.tick).2 ++ terms) last
  | pass (early : bus.tick ≤ later) (inTime : horizon.all (later ≤ ·))
      (health : ∀ time, bus.tick ≤ time → time < later → bus.health.Idles (clock .health) time)
      (termination : ∀ time, bus.tick ≤ time → time < later →
        bus.termination.Idles (clock .termination) time)
      (others : Weaves clock horizon (bus.make clock (.clock later)) healths terms last) :
      Weaves clock horizon bus healths terms last

/-- What is told of a step when both jobs have come to rest. -/
def told (bus : Scripted) (step : Step) (activity : Activity) (later : Scripted) : Report where
  activity := activity
  connected := later.connected.raised
  requested := later.requested.raised
  healthRunning := later.health.status.isRunning
  wait := bus.asked step
  exits := if step = .join then some later.exits? else none

/-- At the end of a step the clock is set, and the signals and the waits are looked after. -/
def settled (horizon : Option Nat) (last : Scripted) : Scripted :=
  ({ last with tick := horizon.getD last.tick }).release.pollWaits

/-- A run in which the jobs make their turns in whatever order. A join is the last step. -/
inductive Unfolds (clock : Role → Clock) : Scripted → List Step → List Report → Prop
  | nil : Unfolds clock bus [] []
  | join (weaves : Weaves clock none bus healths terms last) :
      Unfolds clock bus (.join :: steps) [bus.told .join ⟨healths, terms⟩ (last.settled none)]
  | step {step : Step} (goesOn : step ≠ .join)
      (weaves : Weaves clock (bus.horizon step) (bus.act step) healths terms last)
      (others : Unfolds clock (last.settled (bus.horizon step)) steps reports) :
      Unfolds clock bus (step :: steps)
        (bus.told step ⟨healths, terms⟩ (last.settled (bus.horizon step)) :: reports)

variable {clock : Role → Clock} {horizon : Option Nat} {bus last : Scripted}
  {healths terms : List Event}

theorem make_termination (clock : Role → Clock) (bus : Scripted) (tick : Nat) :
    bus.make clock (.termination tick) =
      ({ bus with termination := (bus.termination.turn (clock .termination) tick).1 }).observe
        (bus.termination.turn (clock .termination) tick).2 := rfl

theorem frame_of_termination (clock : Role → Clock) (bus : Scripted) (tick : Nat) :
    let made := bus.make clock (.termination tick)
    made.health = bus.health ∧
      made.termination = (bus.termination.turn (clock .termination) tick).1 ∧
      made.tick = bus.tick := by
  rw [make_termination, observe_eq]
  exact ⟨rfl, rfl, rfl⟩

namespace Weaves

theorem health_settles (weaves : Weaves clock horizon bus healths terms last) :
    Job.Settles (clock .health) horizon bus.tick bus.health healths last.health := by
  induction weaves with
  | rest health _ => exact .rest health
  | health _ ih => exact .turn ih
  | termination _ ih =>
      rw [make_termination, observe_eq] at ih
      exact ih
  | pass early inTime health _ _ ih => exact .pass early inTime health ih

theorem termination_settles (weaves : Weaves clock horizon bus healths terms last) :
    Job.Settles (clock .termination) horizon bus.tick bus.termination terms last.termination := by
  induction weaves with
  | rest _ termination => exact .rest termination
  | health _ ih => exact ih
  | termination _ ih =>
      rw [make_termination, observe_eq] at ih
      exact .turn ih
  | pass early inTime _ termination _ ih => exact .pass early inTime termination ih

/-- Beside the jobs and the clock, only the signals move, as the termination job says. -/
theorem frame (weaves : Weaves clock horizon bus healths terms last) :
    last = ({ bus with
      health := last.health, termination := last.termination, tick := last.tick }).observe
        terms := by
  induction weaves with
  | rest => rfl
  | health _ ih => exact ih
  | @termination healths terms last bus _ ih =>
      rw [make_termination,
        observe_eq _ (bus.termination.turn (clock .termination) bus.tick).2] at ih
      rw [observe_append, observe_eq _ (bus.termination.turn (clock .termination) bus.tick).2]
      exact ih
  | pass _ _ _ _ _ ih => exact ih

end Weaves

theorem idles_of_rests {job : Job Script} {own : Clock} {tick later : Nat}
    (rests : job.Rests own horizon tick) (inTime : horizon.all (later ≤ ·)) (time : Nat)
    (after : tick ≤ time) (before : time < later) : job.Idles own time := by
  refine rests time after ?_
  cases horizon with
  | none => rfl
  | some horizon =>
      rw [Option.all_some, decide_eq_true_eq] at inTime ⊢
      exact Nat.le_trans (Nat.le_of_lt before) inTime

theorem weaves_of_rests {health termination termination' : Job Script} {tick : Nat}
    (rests : health.Rests (clock .health) horizon tick)
    (settles : Job.Settles (clock .termination) horizon tick termination terms termination')
    (bus : Scripted) (first : bus.health = health) (second : bus.termination = termination)
    (now : bus.tick = tick) : ∃ last, Weaves clock horizon bus [] terms last := by
  induction settles generalizing bus with
  | rest rests' =>
      subst first second now
      exact ⟨bus, .rest rests rests'⟩
  | turn _ ih =>
      subst first second now
      obtain ⟨same, turned, now⟩ := frame_of_termination clock bus bus.tick
      obtain ⟨last, weaves⟩ := ih rests _ same turned now
      exact ⟨last, .termination weaves⟩
  | @pass tick later _ _ _ early inTime idles _ ih =>
      subst first second now
      have rests' : bus.health.Rests (clock .health) horizon later :=
        fun time after => rests time (Nat.le_trans early after)
      obtain ⟨last, weaves⟩ := ih rests' (bus.make clock (.clock later)) rfl rfl rfl
      exact ⟨last, .pass early inTime (idles_of_rests rests inTime) idles weaves⟩

/-- While one of two jobs idles, the other one can get on. -/
theorem weaves_of_settles {health health' termination termination' : Job Script} {tick : Nat}
    (settles : Job.Settles (clock .health) horizon tick health healths health')
    (settles' : Job.Settles (clock .termination) horizon tick termination terms termination')
    (bus : Scripted) (first : bus.health = health) (second : bus.termination = termination)
    (now : bus.tick = tick) : ∃ last, Weaves clock horizon bus healths terms last := by
  induction settles generalizing termination terms bus with
  | rest rests => exact weaves_of_rests rests settles' bus first second now
  | turn _ ih =>
      subst first second now
      obtain ⟨last, weaves⟩ := ih settles' (bus.make clock (.health bus.tick)) rfl rfl rfl
      exact ⟨last, .health weaves⟩
  | @pass tick later health healths health' early inTime idles _ ih =>
      -- Time goes on for both jobs at once, up to the earlier one of their two times.
      induction settles' generalizing bus with
      | @rest tick termination rests =>
          subst first second now
          have rests' : bus.termination.Rests (clock .termination) horizon later :=
            fun time after => rests time (Nat.le_trans early after)
          obtain ⟨last, weaves⟩ := ih (.rest rests') (bus.make clock (.clock later)) rfl rfl rfl
          exact ⟨last, .pass early inTime idles (idles_of_rests rests inTime) weaves⟩
      | turn _ ih' =>
          subst first second now
          obtain ⟨same, turned, now⟩ := frame_of_termination clock bus bus.tick
          obtain ⟨last, weaves⟩ := ih' early idles ih _ same turned now
          exact ⟨last, .termination weaves⟩
      | @pass tick later' termination terms _ early' inTime' idles' others ih' =>
          subst first second now
          obtain sooner | after := Nat.le_total later later'
          · have rest := Job.Settles.pass sooner inTime'
              (fun time from' => idles' time (Nat.le_trans early from')) others
            obtain ⟨last, weaves⟩ := ih rest (bus.make clock (.clock later)) rfl rfl rfl
            exact ⟨last, .pass early inTime idles
              (fun time from' before => idles' time from' (Nat.lt_of_lt_of_le before sooner))
              weaves⟩
          · obtain ⟨last, weaves⟩ := ih' after
              (fun time from' => idles time (Nat.le_trans early' from')) ih
              (bus.make clock (.clock later')) rfl rfl rfl
            exact ⟨last, .pass early' inTime'
              (fun time from' before => idles time from' (Nat.lt_of_lt_of_le before after)) idles'
              weaves⟩

/-! Steps -/

structure Sane (bus : Scripted) : Prop where
  health : bus.health.Sane
  termination : bus.termination.Sane

theorem Sane.act (sane : bus.Sane) (step : Step) : (bus.act step).Sane := by
  cases step with
  | abortHealth => exact ⟨Job.Sane.abort sane.health, sane.termination⟩
  | abortTermination => exact ⟨sane.health, Job.Sane.abort sane.termination⟩
  | _ => exact ⟨sane.health, sane.termination⟩

theorem tick_act (bus : Scripted) (step : Step) : (bus.act step).tick = bus.tick := by
  cases step <;> rfl

theorem inTime_horizon (bus : Scripted) (step : Step) :
    (bus.horizon step).all (bus.tick ≤ ·) := by
  cases step with
  | join => rfl
  | pass duration => exact decide_eq_true (Nat.le_add_right ..)
  | _ => exact decide_eq_true (Nat.le_refl _)

theorem exists_horizon (bus : Scripted) {step : Step} (goesOn : step ≠ .join) :
    ∃ tick, bus.horizon step = some tick := by
  cases step with
  | join => exact absurd rfl goesOn
  | _ => exact ⟨_, rfl⟩

/-- Whatever the order of turns, the jobs come to the same rest, and by the same way each. -/
theorem settle_of_weaves (sane : bus.Sane) (inTime : horizon.all (bus.tick ≤ ·))
    (weaves : Weaves clock horizon bus healths terms last) :
    let settled := bus.settle horizon bus.health.patience bus.termination.patience clock
    settled.2 = ⟨healths, terms⟩ ∧
      last.settled horizon = { settled.1 with tick := horizon.getD last.tick } := by
  obtain ⟨health, -⟩ := Job.settles_of_run (clock .health) sane.health horizon bus.tick
  obtain ⟨termination, -⟩ :=
    Job.settles_of_run (clock .termination) sane.termination horizon bus.tick
  obtain ⟨rfl, same⟩ := weaves.health_settles.unique health inTime
  obtain ⟨rfl, same'⟩ := weaves.termination_settles.unique termination inTime
  refine ⟨rfl, ?_⟩
  have framed := weaves.frame
  rw [same, same'] at framed
  obtain ⟨time, now⟩ : ∃ time, last.tick = time := ⟨_, rfl⟩
  rw [now] at framed ⊢
  subst framed
  simp only [settled, settle, observe_eq, release_eq, pollWaits]

theorem exists_weaves (clock : Role → Clock) (sane : bus.Sane) (horizon : Option Nat) :
    ∃ healths terms last, Weaves clock horizon bus healths terms last := by
  obtain ⟨health, -⟩ := Job.settles_of_run (clock .health) sane.health horizon bus.tick
  obtain ⟨termination, -⟩ :=
    Job.settles_of_run (clock .termination) sane.termination horizon bus.tick
  exact ⟨_, _, weaves_of_settles health termination bus rfl rfl rfl⟩

theorem tick_step (clock : Role → Clock) (bus : Scripted) {step : Step} {time : Nat}
    (horizon : bus.horizon step = some time) : (bus.step clock step).1.tick = time := by
  simp only [Scripted.step, settle, observe_eq, release_eq, pollWaits, horizon, Option.getD_some]

theorem step_of_weaves {step : Step} (sane : bus.Sane)
    (weaves : Weaves clock (bus.horizon step) (bus.act step) healths terms last) :
    bus.told step ⟨healths, terms⟩ (last.settled (bus.horizon step)) = (bus.step clock step).2 ∧
      (step ≠ .join → last.settled (bus.horizon step) = (bus.step clock step).1) := by
  have inTime : (bus.horizon step).all ((bus.act step).tick ≤ ·) := by
    rw [tick_act]
    exact inTime_horizon bus step
  obtain ⟨activity, settled⟩ := settle_of_weaves (sane.act step) inTime weaves
  rw [settled, ← activity]
  refine ⟨rfl, fun goesOn => ?_⟩
  obtain ⟨time, horizon⟩ := exists_horizon bus goesOn
  have set : (bus.horizon step).getD last.tick = (bus.step clock step).1.tick := by
    rw [tick_step clock bus horizon, horizon, Option.getD_some]
  rw [set]
  rfl

theorem Sane.step (sane : bus.Sane) (clock : Role → Clock) (step : Step) :
    (bus.step clock step).1.Sane := by
  have acted := sane.act step
  obtain ⟨-, health⟩ :=
    Job.settles_of_run (clock .health) acted.health (bus.horizon step) (bus.act step).tick
  obtain ⟨-, termination⟩ :=
    Job.settles_of_run (clock .termination) acted.termination (bus.horizon step)
      (bus.act step).tick
  simp only [Scripted.step, settle, observe_eq, release_eq, pollWaits]
  exact ⟨health, termination⟩

theorem run_cons (clock : Role → Clock) (bus : Scripted) (step : Step) (steps : List Step) :
    bus.run clock (step :: steps) =
      (bus.step clock step).2 ::
        if step = .join then [] else (bus.step clock step).1.run clock steps := rfl

/-- The order in which jobs make their turns is never told. -/
theorem unfolds_iff (sane : bus.Sane) {steps : List Step} {reports : List Report} :
    Unfolds clock bus steps reports ↔ reports = bus.run clock steps := by
  constructor
  · intro unfolds
    induction unfolds with
    | nil => rfl
    | @join bus _ _ _ _ weaves =>
        have woven : Weaves clock (bus.horizon .join) (bus.act .join) _ _ _ := weaves
        rw [run_cons, if_pos rfl, ← (step_of_weaves sane woven).1]
        rfl
    | step goesOn weaves _ ih =>
        obtain ⟨told, settled⟩ := step_of_weaves sane weaves
        rw [settled goesOn] at ih
        rw [run_cons, if_neg goesOn, told, ih (sane.step clock _)]
  · rintro rfl
    induction steps generalizing bus with
    | nil => exact .nil
    | cons step steps ih =>
        obtain ⟨healths, terms, last, weaves⟩ :=
          exists_weaves clock (sane.act step) (bus.horizon step)
        obtain ⟨told, settled⟩ := step_of_weaves sane weaves
        rw [run_cons, ← told]
        by_cases ends : step = .join
        · subst ends
          rw [if_pos rfl]
          exact .join weaves
        · rw [if_neg ends, ← settled ends]
          exact .step ends weaves (ih (settled ends ▸ sane.step clock step))

end Bus.Scripted

end Heartbeat
