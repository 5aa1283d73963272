import Heartbeat.Proofs.Responder.Weaving
import Heartbeat.Responder.Settings

/-!
Each job of a bus behaves as if it were alone: what it does, how it ends and what it tells others
depend on its own script and on the steps that concern it, whatever happens on the other side.
-/

namespace Heartbeat

/-- A responder at work by itself, with signals of its own. -/
structure Alone where
  job : Job Script
  connected : Bool := false
  requested : Bool := false
  tick : Nat := 0

namespace Alone

inductive Step where
  | look
  | feed (addition : Script.Addition)
  | pass (duration : Nat)
  | abort
  | join
deriving DecidableEq

structure Report where
  events : List Event
  status : Status
  connected : Bool
  requested : Bool

def act (alone : Alone) : Step → Job Script
  | .feed addition => { alone.job with channel := alone.job.channel.feed addition }
  | .abort => alone.job.abort
  | _ => alone.job

def horizon (alone : Alone) : Step → Option Nat
  | .pass duration => some (alone.tick + duration)
  | .join => none
  | _ => some alone.tick

def report (alone : Alone) (events : List Event) : Report :=
  ⟨events, alone.job.status, alone.connected, alone.requested⟩

def step (clock : Clock) (alone : Alone) (step : Step) : Alone × Report :=
  let acted := alone.act step
  let progress := acted.run (alone.horizon step) acted.patience clock alone.tick
  let said := milestones progress.events
  let later : Alone :=
    { job := progress.job
      connected := alone.connected || said.contains .connected
      requested := alone.requested || said.contains .requested
      tick := (alone.horizon step).getD progress.tick }
  (later, later.report progress.events)

def run (clock : Clock) (alone : Alone) : List Step → List Report
  | [] => []
  | s :: steps =>
      let (later, report) := alone.step clock s
      report :: if s = .join then [] else run clock later steps

end Alone

namespace Bus

/-- What a step is to the job of this role, if it concerns it. -/
def Step.own? : Role → Step → Option Alone.Step
  | .health, .feedHealth addition => some (.feed addition)
  | .health, .abortHealth => some .abort
  | .termination, .feedTermination addition => some (.feed addition)
  | .termination, .abortTermination => some .abort
  | _, .pass duration => some (.pass duration)
  | _, .join => some .join
  | _, _ => none

/-- What a row of steps is to the job of this role. The first one starts it, even if that is all
that the job has from it. -/
def Step.owns (role : Role) : List Step → List Alone.Step
  | [] => []
  | first :: steps => (first.own? role).getD .look :: steps.filterMap (own? role)

def Activity.of (activity : Activity) : Role → List Event
  | .health => activity.health
  | .termination => activity.termination

def Exits.of (exits : Exits) : Role → Option Exit
  | .health => exits.health
  | .termination => exits.termination

/-- What is seen of one side in the report of a bus is what is seen of a responder alone. -/
structure Report.Agrees (report : Report) (role : Role) (told : Alone.Report) : Prop where
  running : role = .health → report.healthRunning = told.status.isRunning
  signals : role = .termination →
    report.connected = told.connected ∧ report.requested = told.requested
  exit : ∀ exits, report.exits = some (some exits) → exits.of role = told.status.exit?

/-- One side is seen alike in two reports. -/
structure Report.Alike (report : Report) (role : Role) (other : Report) : Prop where
  running : role = .health → report.healthRunning = other.healthRunning
  signals : role = .termination →
    report.connected = other.connected ∧ report.requested = other.requested
  exit : ∀ exits exits', report.exits = some (some exits) → other.exits = some (some exits') →
    exits.of role = exits'.of role

theorem Report.Agrees.alike {report other : Report} {role : Role} {told : Alone.Report}
    (agrees : report.Agrees role told) (agrees' : other.Agrees role told) :
    report.Alike role other where
  running health := (agrees.running health).trans (agrees'.running health).symm
  signals termination := by
    obtain ⟨connected, requested⟩ := agrees.signals termination
    obtain ⟨connected', requested'⟩ := agrees'.signals termination
    exact ⟨connected.trans connected'.symm, requested.trans requested'.symm⟩
  exit exits exits' joined joined' :=
    (agrees.exit exits joined).trans (agrees'.exit exits' joined').symm

namespace Scripted

def job (bus : Scripted) : Role → Job Script
  | .health => bus.health
  | .termination => bus.termination

/-- Apart from the clock, one side of a bus is as a responder alone. -/
structure Matches (bus : Scripted) (role : Role) (alone : Alone) : Prop where
  job : bus.job role = alone.job
  signals : role = .termination →
    bus.connected.raised = alone.connected ∧ bus.requested.raised = alone.requested

variable {clock : Role → Clock} {bus later : Scripted} {role : Role} {alone : Alone}
  {step : Step}

theorem Matches.agrees (same : later.Matches role alone) (bus : Scripted) (step : Step)
    (activity : Activity) (events : List Event) :
    (bus.told step activity later).Agrees role (alone.report events) where
  running health := by
    subst health
    exact congrArg (·.status.isRunning) same.job
  signals := same.signals
  exit exits told := by
    unfold Scripted.told at told
    split at told
    · obtain told := Option.some.inj told
      unfold exits? at told
      split at told
      · cases told
      · obtain rfl := Option.some.inj told
        have exit := congrArg (·.status.exit?) same.job
        cases role <;> exact exit
    · cases told

theorem job_step (clock : Role → Clock) (bus : Scripted) (step : Step) (role : Role) :
    let job := (bus.act step).job role
    let progress := job.run (bus.horizon step) job.patience (clock role) bus.tick
    (bus.step clock step).1.job role = progress.job ∧
      (bus.step clock step).2.activity.of role = progress.events := by
  simp only [Scripted.step, settle, tick_act, observe_eq, release_eq, pollWaits]
  cases role <;> exact ⟨rfl, rfl⟩

theorem signals_step (clock : Role → Clock) (bus : Scripted) (step : Step) :
    let said := milestones ((bus.step clock step).2.activity.of .termination)
    (bus.step clock step).1.connected.raised =
        (bus.connected.raised || said.contains .connected) ∧
      (bus.step clock step).1.requested.raised =
        (bus.requested.raised || said.contains .requested) := by
  have connected : (bus.act step).connected = bus.connected := by cases step <;> rfl
  have requested : (bus.act step).requested = bus.requested := by cases step <;> rfl
  simp only [Scripted.step, settle, tick_act, observe_eq, release_eq, pollWaits, connected,
    requested, Latch.raised_keepIf, Latch.raised_raiseIf]
  exact ⟨rfl, rfl⟩

/-- A step that concerns a job is to it what a step of its own is. -/
theorem own_step (same : bus.job role = alone.job) (now : bus.tick = alone.tick)
    {own : Alone.Step} (concerns : step.own? role = some own) :
    (bus.act step).job role = alone.act own ∧ bus.horizon step = alone.horizon own ∧
      (own = .join ↔ step = .join) := by
  obtain ⟨job, connected, requested, tick⟩ := alone
  obtain rfl := same
  obtain rfl := now
  cases role <;> cases step <;> cases concerns
  all_goals exact ⟨rfl, rfl, by simp⟩

theorem foreign_step (bus : Scripted) (other : step.own? role = none) :
    (bus.act step).job role = bus.job role ∧ bus.horizon step = some bus.tick ∧
      step ≠ .join := by
  cases role <;> cases step <;> cases other
  all_goals exact ⟨rfl, rfl, nofun⟩

/-- The first step starts a job. -/
theorem first_step (same : bus.job role = alone.job) (now : bus.tick = alone.tick)
    (first : Step) :
    let own := (first.own? role).getD .look
    (bus.act first).job role = alone.act own ∧ bus.horizon first = alone.horizon own ∧
      (own = .join ↔ first = .join) := by
  cases concerns : first.own? role with
  | some own => exact own_step same now concerns
  | none =>
      obtain ⟨acted, horizon, goesOn⟩ := foreign_step bus concerns
      refine ⟨acted.trans same, horizon.trans (congrArg some now), ?_⟩
      exact ⟨nofun, fun joins => absurd joins goesOn⟩

theorem matches_step (clock : Role → Clock) (same : bus.Matches role alone)
    (now : bus.tick = alone.tick) (step : Step) (own : Alone.Step)
    (acted : (bus.act step).job role = alone.act own)
    (horizon : bus.horizon step = alone.horizon own) :
    (bus.step clock step).1.Matches role (alone.step (clock role) own).1 ∧
      (bus.step clock step).2.activity.of role = (alone.step (clock role) own).2.events ∧
      (step ≠ .join → (bus.step clock step).1.tick = (alone.step (clock role) own).1.tick) := by
  obtain ⟨job, events⟩ := job_step clock bus step role
  rw [acted, horizon, now] at job events
  refine ⟨⟨job, fun termination => ?_⟩, events, fun goesOn => ?_⟩
  · subst termination
    obtain ⟨connected, requested⟩ := signals_step clock bus step
    obtain ⟨connected', requested'⟩ := same.signals rfl
    rw [connected, requested, connected', requested', events]
    exact ⟨rfl, rfl⟩
  · obtain ⟨time, set⟩ := exists_horizon bus goesOn
    rw [tick_step clock bus set, Alone.step, ← horizon, set]
    rfl

/-- A step that does not concern a job finds it idle, and leaves it so. -/
theorem matches_foreign (clock : Role → Clock) (same : bus.Matches role alone)
    (now : bus.tick = alone.tick) (sane : alone.job.Sane)
    (idles : alone.job.Idles (clock role) alone.tick) (other : step.own? role = none) :
    (bus.step clock step).1.Matches role alone ∧
      (bus.step clock step).2.activity.of role = [] ∧
      (bus.step clock step).1.tick = alone.tick := by
  obtain ⟨acted, horizon, -⟩ := foreign_step bus other
  obtain ⟨job, events⟩ := job_step clock bus step role
  rw [acted, horizon, same.job, now] at job events
  have still :
      let progress := alone.job.run (some alone.tick) alone.job.patience (clock role) alone.tick
      progress.events = [] ∧ progress.job = alone.job := by
    refine (Job.settles_of_run (clock role) sane _ _).1.of_rests (decide_eq_true (Nat.le_refl _)) ?_
    intro later after before
    obtain rfl := Nat.le_antisymm after (of_decide_eq_true before)
    exact idles
  rw [still.1] at events
  rw [still.2] at job
  refine ⟨⟨job, fun termination => ?_⟩, events, ?_⟩
  · subst termination
    obtain ⟨connected, requested⟩ := signals_step clock bus step
    rw [connected, requested, events]
    simpa only [milestones, List.filterMap_nil, List.contains_nil, Bool.or_false] using
      same.signals rfl
  · rw [tick_step clock bus horizon, now]

end Scripted

end Bus

namespace Alone

variable {alone : Alone}

/-- After each step the job has nothing left to do before something happens. -/
theorem idles_step (clock : Clock) (sane : alone.job.Sane) {step : Step}
    (goesOn : step ≠ .join) :
    let later := (alone.step clock step).1
    later.job.Sane ∧ later.job.Idles clock later.tick := by
  obtain ⟨tick, horizon, early⟩ : ∃ tick, alone.horizon step = some tick ∧ alone.tick ≤ tick := by
    cases step with
    | join => exact absurd rfl goesOn
    | pass duration => exact ⟨_, rfl, Nat.le_add_right ..⟩
    | _ => exact ⟨_, rfl, Nat.le_refl _⟩
  have acted : (alone.act step).Sane := by
    cases step with
    | abort => exact Job.Sane.abort sane
    | _ => exact sane
  have settled := Job.settles_of_run clock acted (alone.horizon step) alone.tick
  obtain ⟨time, -, inTime, rests⟩ := settled.1.rests (by rw [horizon]; exact decide_eq_true early)
  rw [horizon] at inTime rests
  refine ⟨settled.2, ?_⟩
  have idles := rests tick (of_decide_eq_true inTime) (decide_eq_true (Nat.le_refl _))
  simp only [Alone.step, horizon, Option.getD_some]
  exact idles

theorem run_cons (clock : Clock) (alone : Alone) (step : Step) (steps : List Step) :
    alone.run clock (step :: steps) =
      (alone.step clock step).2 ::
        if step = .join then [] else (alone.step clock step).1.run clock steps := rfl

end Alone

namespace Bus.Scripted

/-- What one side of a bus does and shows over some steps is what a responder does and shows
alone. If there are no steps, what was shown before is shown still. -/
structure Follows (clock : Role → Clock) (role : Role) (bus : Scripted) (steps : List Step)
    (alone : Alone) (owns : List Alone.Step) : Prop where
  events : ((bus.run clock steps).flatMap fun report => report.activity.of role) =
    (alone.run (clock role) owns).flatMap (·.events)
  last : ∀ report told, report.Agrees role (alone.report told) →
    ((bus.run clock steps).getLastD report).Agrees role
      ((alone.run (clock role) owns).getLastD (alone.report told))

variable {clock : Role → Clock} {bus : Scripted} {role : Role} {alone : Alone}

theorem follows_cons (same : bus.Matches role alone) (now : bus.tick = alone.tick)
    (sane : alone.job.Sane) {step : Step} {own : Alone.Step} {steps : List Step}
    {owns : List Alone.Step} (acted : (bus.act step).job role = alone.act own)
    (horizon : bus.horizon step = alone.horizon own) (ends : own = .join ↔ step = .join)
    (others : ∀ {later : Scripted} {alone' : Alone}, later.Matches role alone' →
      later.tick = alone'.tick → alone'.job.Sane → alone'.job.Idles (clock role) alone'.tick →
        Follows clock role later steps alone' owns) :
    Follows clock role bus (step :: steps) alone (own :: owns) := by
  obtain ⟨same', events, set⟩ := matches_step clock same now step own acted horizon
  have agrees := same'.agrees bus step (bus.step clock step).2.activity
    (alone.step (clock role) own).2.events
  by_cases last : step = .join
  · constructor
    all_goals
      rw [run_cons, Alone.run_cons, if_pos last, if_pos (ends.mpr last)]
    · rw [List.flatMap_cons, List.flatMap_cons, events]
      rfl
    · exact fun _ _ _ => agrees
  · have goesOn : own ≠ .join := fun joins => last (ends.mp joins)
    obtain ⟨sane', idles⟩ := Alone.idles_step (clock role) sane goesOn
    have rest := others same' (set last) sane' idles
    constructor
    all_goals
      rw [run_cons, Alone.run_cons, if_neg last, if_neg goesOn]
    · rw [List.flatMap_cons, List.flatMap_cons, events, rest.events]
    · intro _ _ _
      rw [List.getLastD_cons, List.getLastD_cons]
      exact rest.last _ _ agrees

theorem run_follows (steps : List Step) {bus : Scripted} {alone : Alone}
    (same : bus.Matches role alone) (now : bus.tick = alone.tick) (sane : alone.job.Sane)
    (idles : alone.job.Idles (clock role) alone.tick) :
    Follows clock role bus steps alone (steps.filterMap (Step.own? role)) := by
  induction steps generalizing bus alone with
  | nil => exact ⟨rfl, fun report told agrees => agrees⟩
  | cons step steps ih =>
      rw [List.filterMap_cons]
      cases concerns : step.own? role with
      | none =>
          obtain ⟨same', quiet, now'⟩ := matches_foreign clock same now sane idles concerns
          obtain ⟨-, -, goesOn⟩ := foreign_step bus concerns
          have rest := ih same' now' sane idles
          constructor
          all_goals rw [run_cons, if_neg goesOn]
          · rw [List.flatMap_cons, quiet, List.nil_append, rest.events]
          · intro _ told _
            rw [List.getLastD_cons]
            exact rest.last _ told (same'.agrees bus step _ told)
      | some own =>
          obtain ⟨acted, horizon, ends⟩ := own_step same.job now concerns
          exact follows_cons same now sane acted horizon ends ih

end Bus.Scripted

namespace Settings

def job (settings : Settings) (role : Role) (endpoint : Endpoint) (script : Script) : Job Script :=
  { responder := settings.responder role endpoint, channel := script }

def alone (settings : Settings) (role : Role) (endpoint : Endpoint) (script : Script) : Alone where
  job := settings.job role endpoint script

def bus (settings : Settings) (endpoint : Role → Endpoint) (script : Role → Script) :
    Bus.Scripted where
  health := settings.job .health (endpoint .health) (script .health)
  termination := settings.job .termination (endpoint .termination) (script .termination)

open Bus Bus.Scripted

variable (settings : Settings) (endpoint : Role → Endpoint) (script : Role → Script)

theorem sane_job (role : Role) (endpoint : Endpoint) (script : Script) :
    (settings.job role endpoint script).Sane :=
  Job.Sane.running trivial

theorem sane_bus : (settings.bus endpoint script).Sane :=
  ⟨sane_job settings _ _ _, sane_job settings _ _ _⟩

/-- What a side of a bus does and shows, from its start, in whatever order turns are made. -/
theorem side_of_bus (role : Role) (clock : Role → Clock) (first : Step) (steps : List Step)
    {reports : List Report}
    (unfolds : Unfolds clock (settings.bus endpoint script) (first :: steps) reports) :
    let tolds := (settings.alone role (endpoint role) (script role)).run (clock role)
      (Step.owns role (first :: steps))
    (reports.flatMap fun report => report.activity.of role) = tolds.flatMap (·.events) ∧
      ∃ report told, reports.getLast? = some report ∧ tolds.getLast? = some told ∧
        report.Agrees role told := by
  obtain rfl := (unfolds_iff (settings.sane_bus endpoint script)).mp unfolds
  let bus := settings.bus endpoint script
  let alone := settings.alone role (endpoint role) (script role)
  have start : bus.Matches role alone := ⟨by cases role <;> rfl, fun _ => ⟨rfl, rfl⟩⟩
  have sane : alone.job.Sane := sane_job settings role (endpoint role) (script role)
  obtain ⟨acted, horizon, ends⟩ := first_step start.job rfl first
  have follows : Follows clock role bus (first :: steps) alone
      (Step.owns role (first :: steps)) :=
    follows_cons start rfl sane acted horizon ends (run_follows steps)
  have final := follows.last _ _ (start.agrees bus first ⟨[], []⟩ [])
  refine ⟨follows.events, _, _, ?_, ?_, final⟩
  · rw [Bus.Scripted.run_cons, List.getLast?_cons, List.getLastD_cons, List.getLastD_eq_getLast?]
  · rw [Step.owns, Alone.run_cons, List.getLast?_cons, List.getLastD_cons,
      List.getLastD_eq_getLast?]

/-- The sides of a bus do not interfere. Its jobs may make their turns in any order; each side then
does and shows what a responder does alone, on the same script and with the steps that concern it,
started by the same first step. So two runs that differ on the other side only look the same from
this one. -/
theorem sides_apart (clock : Role → Clock) (first : Step) (steps : List Step) (role : Role) :
    (∃ reports, Unfolds clock (settings.bus endpoint script) (first :: steps) reports) ∧
    (∀ reports, Unfolds clock (settings.bus endpoint script) (first :: steps) reports →
      let tolds := (settings.alone role (endpoint role) (script role)).run (clock role)
        (Step.owns role (first :: steps))
      (reports.flatMap fun report => report.activity.of role) = tolds.flatMap (·.events) ∧
        ∃ report told, reports.getLast? = some report ∧ tolds.getLast? = some told ∧
          report.Agrees role told) ∧
    ∀ endpoint' script' first' steps', endpoint' role = endpoint role →
      script' role = script role →
      Step.owns role (first' :: steps') = Step.owns role (first :: steps) →
      ∀ clock' reports reports', clock' role = clock role →
        Unfolds clock (settings.bus endpoint script) (first :: steps) reports →
        Unfolds clock' (settings.bus endpoint' script') (first' :: steps') reports' →
        (reports.flatMap fun report => report.activity.of role) =
            reports'.flatMap (fun report => report.activity.of role) ∧
          ∃ report report', reports.getLast? = some report ∧ reports'.getLast? = some report' ∧
            report.Alike role report' := by
  refine ⟨?unfolds, ?alone, ?alike⟩
  case unfolds => exact ⟨_, (unfolds_iff (settings.sane_bus endpoint script)).mpr rfl⟩
  case alone => exact fun reports => settings.side_of_bus endpoint script role clock first steps
  case alike =>
    intro endpoint' script' first' steps' same sameScript sameSteps clock' reports reports'
      sameClock unfolds unfolds'
    obtain ⟨events, report, told, last, final, agrees⟩ :=
      settings.side_of_bus endpoint script role clock first steps unfolds
    obtain ⟨events', report', told', last', final', agrees'⟩ :=
      settings.side_of_bus endpoint' script' role clock' first' steps' unfolds'
    rw [same, sameScript, sameSteps, sameClock] at events' final'
    obtain rfl := Option.some.inj (final.symm.trans final')
    exact ⟨events.trans events'.symm, report, report', last, last', agrees.alike agrees'⟩

/-- A health job that crashes, and another one that is stopped before its first turn, beside a
request to terminate. -/
theorem sides_apart_past_crash :
    let settings : Settings := ⟨0, 2, ⟨"worker", 7⟩, .slept⟩
    let clock : Role → Clock := fun _ turn => ⟨0, turn, 0⟩
    let request := (Envelope.terminateWorkerRequest ⟨0, 0, 0⟩).encode
    let asked : Script := { prepared := true, dialed := true, arrivals := [.datagram request] }
    let crashing : Script := { prepared := true, dialed := true, arrivals := [.crash] }
    let script : Role → Script
      | .health => crashing
      | .termination => asked
    let script' : Role → Script
      | .health => { live := true }
      | .termination => asked
    let reports := (settings.bus (fun _ => .new "a.sock") script).run clock [.look]
    let reports' := (settings.bus (fun _ => .new "a.sock") script').run clock [.abortHealth]
    (reports.flatMap (·.activity.health)) ≠ reports'.flatMap (·.activity.health) ∧
      (reports.flatMap (·.activity.termination)) = reports'.flatMap (·.activity.termination) := by
  intro settings clock request asked crashing script script' reports reports'
  have apart := settings.sides_apart (fun _ => .new "a.sock") script clock .look [] .termination
  have sane := settings.sane_bus fun _ => .new "a.sock"
  refine ⟨by decide +kernel, ?_⟩
  exact (apart.2.2 (fun _ => .new "a.sock") script' .abortHealth [] rfl rfl rfl clock reports
    reports' rfl ((unfolds_iff (sane script)).mpr rfl) ((unfolds_iff (sane script')).mpr rfl)).1

end Settings

end Heartbeat
