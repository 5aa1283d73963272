import Heartbeat.Proofs.Responder.Passage
import Heartbeat.Proofs.Signal.Latch
import Heartbeat.Responder.Bus

/-!
What happens to a bus, move by move. Every step of a bus is a row of moves, most of them turns of
its jobs, and so what is kept by each move is kept wherever a bus comes to.
-/

namespace Heartbeat

namespace Bus

section

variable {H T : Type}

theorem observe_eq (bus : Bus H T) (events : List Event) :
    bus.observe events =
      { bus with
        connected := bus.connected.raiseIf ((milestones events).contains .connected)
        requested := bus.requested.raiseIf ((milestones events).contains .requested) } := by
  induction events generalizing bus with
  | nil => rfl
  | cons event events ih =>
      cases event with
      | call call => exact ih bus
      | notice notice => exact ih bus
      | milestone milestone =>
          rw [observe, ih]
          have raised (latch : Latch) : latch.raise.2 = latch.raiseIf true := rfl
          cases milestone with
          | connected =>
              simp only [raise, raised, Latch.raiseIf_raiseIf]
              rfl
          | requested =>
              simp only [raise, raised, Latch.raiseIf_raiseIf]
              rfl

theorem observe_append (bus : Bus H T) (events more : List Event) :
    bus.observe (events ++ more) = (bus.observe events).observe more := by
  rw [observe_eq, observe_eq (bus.observe events), observe_eq, milestones_append]
  simp only [Latch.raiseIf_raiseIf, List.contains_append]

theorem release_eq (bus : Bus H T) :
    bus.release =
      { bus with
        connected := bus.connected.keepIf bus.termination.status.isRunning
        requested := bus.requested.keepIf bus.termination.status.isRunning } := by
  unfold release Latch.keepIf
  cases bus.termination.status.isRunning <;> rfl

theorem release_release (bus : Bus H T) : bus.release.release = bus.release := by
  rw [release_eq bus.release, release_eq]
  simp only [Latch.keepIf_keepIf]

theorem release_with {bus : Bus H T} (released : bus.release = bus) (health : Job H)
    (waits : List Wait) (tick : Nat) :
    ({ bus with health, waits, tick }).release = { bus with health, waits, tick } := by
  have connected := congrArg Bus.connected released
  have requested := congrArg Bus.requested released
  rw [release_eq] at connected requested ⊢
  simp only at connected requested ⊢
  rw [connected, requested]

end

/-- The least that may happen to a bus. A turn goes by the clock as its job sees it, and looking
after the waits is a move of its own. -/
inductive Move where
  | health (tick : Nat)
  | termination (tick : Nat)
  | act (step : Step)
  | clock (tick : Nat)
  | poll
deriving DecidableEq

def Move.isOfHealth : Move → Bool
  | .health _ => true
  | .act (.feedHealth _) => true
  | .act .abortHealth => true
  | _ => false

namespace Scripted

def make (clock : Role → Clock) (bus : Scripted) : Move → Scripted
  | .health tick => { bus with health := (bus.health.turn (clock .health) tick).1 }
  | .termination tick =>
      let (job, events) := bus.termination.turn (clock .termination) tick
      ({ bus with termination := job }).observe events
  | .act step => bus.act step
  | .clock tick => { bus with tick := tick }
  | .poll => bus.pollWaits

def move (clock : Role → Clock) (bus : Scripted) (move : Move) : Scripted :=
  (bus.make clock move).release

def after (clock : Role → Clock) (bus : Scripted) (moves : List Move) : Scripted :=
  moves.foldl (move clock) bus

/-- Where a row of steps leads. -/
def follow (clock : Role → Clock) (bus : Scripted) (steps : List Step) : Scripted :=
  steps.foldl (fun bus step => (bus.step clock step).1) bus

theorem after_append (clock : Role → Clock) (bus : Scripted) (moves more : List Move) :
    bus.after clock (moves ++ more) = (bus.after clock moves).after clock more :=
  List.foldl_append

theorem after_concat (clock : Role → Clock) (bus : Scripted) (moves : List Move) (last : Move) :
    bus.after clock (moves ++ [last]) = (bus.after clock moves).move clock last :=
  after_append ..

theorem release_after {clock : Role → Clock} {bus : Scripted} (released : bus.release = bus)
    (moves : List Move) : (bus.after clock moves).release = bus.after clock moves := by
  induction moves generalizing bus with
  | nil => exact released
  | cons first moves ih => exact ih (release_release _)

theorem after_keeps (holds : List Move → Scripted → Prop) {clock : Role → Clock}
    {bus : Scripted} (start : holds [] bus)
    (keeps : ∀ moves next, holds moves (bus.after clock moves) →
      holds (moves ++ [next]) ((bus.after clock moves).move clock next))
    (moves : List Move) : holds moves (bus.after clock moves) := by
  suffices further : ∀ before, holds before (bus.after clock before) →
      holds (before ++ moves) (bus.after clock (before ++ moves)) from further [] start
  induction moves with
  | nil =>
      intro before held
      rwa [List.append_nil]
  | cons next moves ih =>
      intro before held
      have made := keeps before next held
      rw [← after_concat] at made
      rw [List.append_cons]
      exact ih _ made

/-! The health job moves alone -/

def withHealth (bus : Scripted) (health : Job Script) : Scripted :=
  { bus with health := health }

section

variable (clock : Role → Clock) {bus : Scripted}

theorem exists_move_of_health (released : bus.release = bus) {next : Move}
    (ofHealth : next.isOfHealth) : ∃ health, bus.move clock next = bus.withHealth health := by
  cases next with
  | health tick => exact ⟨_, release_with released _ bus.waits bus.tick⟩
  | act step =>
      cases step with
      | feedHealth addition => exact ⟨_, release_with released _ bus.waits bus.tick⟩
      | abortHealth => exact ⟨_, release_with released _ bus.waits bus.tick⟩
      | _ => cases ofHealth
  | _ => cases ofHealth

theorem move_withHealth (other : Job Script) {next : Move} (ofOthers : next.isOfHealth = false) :
    (bus.withHealth other).move clock next = (bus.move clock next).withHealth other := by
  cases next with
  | health tick => cases ofOthers
  | termination tick => simp only [move, make, withHealth, release_eq, observe_eq]
  | act step =>
      cases step with
      | feedHealth addition => cases ofOthers
      | abortHealth => cases ofOthers
      | _ => simp only [move, make, act, withHealth, release_eq]
  | clock tick => simp only [move, make, withHealth, release_eq]
  | poll => simp only [move, make, pollWaits, withHealth, release_eq]

/-- Whatever the health job does, all else is as if it did nothing. -/
theorem after_withHealth (released : bus.release = bus) (other : Job Script) (moves : List Move) :
    (bus.withHealth other).after clock (moves.filter fun next => !next.isOfHealth) =
      (bus.after clock moves).withHealth other := by
  induction moves generalizing bus with
  | nil => rfl
  | cons next moves ih =>
      have later : ((bus.move clock next).withHealth other).after clock
          (moves.filter fun next => !next.isOfHealth) =
            ((bus.move clock next).after clock moves).withHealth other :=
        ih (release_release _)
      rw [List.filter_cons]
      cases kind : next.isOfHealth with
      | true =>
          obtain ⟨health, moved⟩ := exists_move_of_health clock released kind
          have same : (bus.move clock next).withHealth other = bus.withHealth other := by
            rw [moved]
            rfl
          rw [← same]
          exact later
      | false =>
          rw [← move_withHealth clock other kind] at later
          exact later

end

/-! Steps are rows of moves -/

def Reaches (clock : Role → Clock) (bus later : Scripted) : Prop :=
  ∃ moves, bus.after clock moves = later

theorem Reaches.trans {clock : Role → Clock} {bus later last : Scripted} :
    bus.Reaches clock later → later.Reaches clock last → bus.Reaches clock last := by
  rintro ⟨moves, rfl⟩ ⟨more, rfl⟩
  exact ⟨moves ++ more, after_append ..⟩

theorem Reaches.released {clock : Role → Clock} {bus later : Scripted}
    (reaches : bus.Reaches clock later) (released : bus.release = bus) :
    later.release = later := by
  obtain ⟨moves, rfl⟩ := reaches
  exact release_after released moves

section

variable (clock : Role → Clock) {bus : Scripted} (released : bus.release = bus)

include released

theorem reaches_of_health (horizon : Option Nat) (fuel tick : Nat) :
    bus.Reaches clock
      { bus with health := (bus.health.run horizon fuel (clock .health) tick).job } := by
  let holds (_ : List Event) (job : Job Script) : Prop :=
    bus.Reaches clock { bus with health := job }
  refine Job.run_keeps holds ?_ ⟨[], rfl⟩ horizon fuel tick
  rintro - tick job - ⟨moves, came⟩
  refine ⟨moves ++ [.health tick], ?_⟩
  rw [after_concat, came]
  exact release_with released ..

theorem reaches_of_termination (horizon : Option Nat) (fuel tick : Nat) :
    let progress := bus.termination.run horizon fuel (clock .termination) tick
    bus.Reaches clock
      (({ bus with termination := progress.job }).observe progress.events).release := by
  let holds (events : List Event) (job : Job Script) : Prop :=
    bus.Reaches clock (({ bus with termination := job }).observe events).release
  refine Job.run_keeps holds ?_ ⟨[], released.symm⟩ horizon fuel tick
  rintro events tick job running ⟨moves, came⟩
  refine ⟨moves ++ [.termination tick], ?_⟩
  -- A job that is still at work keeps its signals, so that nothing is released between its turns.
  have there : (bus.after clock moves).termination = job := by
    rw [came, release_eq, observe_eq]
  have same (job' : Job Script) : ({ bus.after clock moves with termination := job' } : Scripted) =
      ({ bus with termination := job' }).observe events := by
    rw [came, release_eq, observe_eq, observe_eq]
    simp only [running]
    rfl
  rw [after_concat, observe_append, ← same, move, make, there]

theorem reaches_of_settle (horizon : Option Nat) (healthFuel terminationFuel : Nat) :
    bus.Reaches clock (bus.settle horizon healthFuel terminationFuel clock).1 := by
  let health := bus.health.run horizon healthFuel (clock .health) bus.tick
  let termination := bus.termination.run horizon terminationFuel (clock .termination) bus.tick
  let now := horizon.getD (max health.tick termination.tick)
  have kept (health : Job Script) :
      ({ bus with health, tick := now } : Scripted).release =
        { bus with health, tick := now } :=
    release_with released health bus.waits now
  have clocked : bus.Reaches clock { bus with tick := now } := ⟨[.clock now], kept bus.health⟩
  have first := reaches_of_health clock (kept bus.health) horizon healthFuel bus.tick
  have second := reaches_of_termination clock (kept health.job) horizon terminationFuel bus.tick
  have polled (bus : Scripted) : Reaches clock bus.release bus.release.pollWaits :=
    ⟨[.poll], release_with (release_release bus) ..⟩
  exact ((clocked.trans first).trans second).trans (polled _)

end

/-- Signals that cannot be raised any more may be given up before the jobs run or after it. -/
theorem settle_release [Channel H] [Channel T] (horizon : Option Nat)
    (healthFuel terminationFuel : Nat) (clock : Role → Clock) (bus : Bus H T) :
    bus.release.settle horizon healthFuel terminationFuel clock =
      bus.settle horizon healthFuel terminationFuel clock := by
  cases running : bus.termination.status.isRunning with
  | true => rw [release, if_pos running]
  | false =>
      simp only [release_eq, settle, Job.run_of_ended running, observe, running,
        Latch.keepIf_keepIf]

theorem reaches_of_step (clock : Role → Clock) (bus : Scripted) (step : Step) :
    bus.Reaches clock (bus.step clock step).1 := by
  have acted : bus.Reaches clock (bus.act step).release := ⟨[.act step], rfl⟩
  have settled := reaches_of_settle clock (release_release (bus.act step)) (bus.horizon step)
    (bus.act step).health.patience (bus.act step).termination.patience
  rw [settle_release] at settled
  exact acted.trans settled

theorem follow_append (clock : Role → Clock) (bus : Scripted) (steps more : List Step) :
    bus.follow clock (steps ++ more) = (bus.follow clock steps).follow clock more :=
  List.foldl_append

theorem reaches_of_follow (clock : Role → Clock) {bus : Scripted}
    (released : bus.release = bus) (steps : List Step) :
    bus.Reaches clock (bus.follow clock steps) := by
  induction steps generalizing bus with
  | nil => exact ⟨[], rfl⟩
  | cons step steps ih =>
      have first := bus.reaches_of_step clock step
      exact first.trans (ih (first.released released))

/-- Wherever steps lead a bus, and then more steps, moves lead it, and then more moves. -/
theorem exists_moves_of_steps (clock : Role → Clock) {bus : Scripted}
    (released : bus.release = bus) (steps more : List Step) :
    ∃ moves moves', bus.after clock moves = bus.follow clock steps ∧
      bus.after clock (moves ++ moves') = bus.follow clock (steps ++ more) := by
  have first := reaches_of_follow clock released steps
  obtain ⟨moves', further⟩ := reaches_of_follow clock (first.released released) more
  obtain ⟨moves, came⟩ := first
  refine ⟨moves, moves', came, ?_⟩
  rw [after_append, came, further, follow_append]

/-- A run reports the steps on its way, up to the first that ends it. -/
theorem report_of_run (clock : Role → Clock) (bus : Scripted) (steps : List Step) {n : Nat}
    {report : Report} (reported : (bus.run clock steps)[n]? = some report) :
    ∃ step, steps[n]? = some step ∧
      ((bus.follow clock (steps.take n)).step clock step).2 = report := by
  induction steps generalizing bus n with
  | nil => cases reported
  | cons step steps ih =>
      rw [run] at reported
      cases n with
      | zero => exact ⟨step, rfl, Option.some.inj reported⟩
      | succ n =>
          rw [List.getElem?_cons_succ] at reported
          split at reported
          · cases reported
          · exact ih _ reported

end Scripted

end Bus

end Heartbeat
