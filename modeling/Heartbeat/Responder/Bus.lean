import Heartbeat.Responder.Job
import Heartbeat.Signal.Latch

/-!
Both responders side by side, and the signals by which the second one tells the rest of the
program how far it is. The jobs share nothing but the time, which each reads
off the clock in its own turns.
-/

namespace Heartbeat

structure Bus (H T : Type) where
  health : Job H
  termination : Job T
  connected : Latch := {}
  requested : Latch := {}
  /-- The waits of others for a request to terminate. -/
  waits : List Wait := []
  /-- The time on the clock that sleepers go by, in milliseconds. -/
  tick : Nat := 0

namespace Bus

def raise (bus : Bus H T) : Milestone → Bus H T
  | .connected => { bus with connected := bus.connected.raise.2 }
  | .requested => { bus with requested := bus.requested.raise.2 }

def observe (bus : Bus H T) : List Event → Bus H T
  | [] => bus
  | .milestone milestone :: events => (bus.raise milestone).observe events
  | _ :: events => bus.observe events

/-- The signals belong to the job that raises them, and cannot be raised after its end. -/
def release (bus : Bus H T) : Bus H T :=
  if bus.termination.status.isRunning then bus
  else { bus with connected := bus.connected.abandon, requested := bus.requested.abandon }

def pollWaits (bus : Bus H T) : Bus H T :=
  { bus with waits := bus.waits.map bus.requested.poll }

structure Activity where
  health : List Event
  termination : List Event

def settle [Channel H] [Channel T] (horizon : Option Nat) (healthFuel terminationFuel : Nat)
    (clock : Role → Clock) (bus : Bus H T) : Bus H T × Activity :=
  let health := bus.health.run horizon healthFuel (clock .health) bus.tick
  let termination := bus.termination.run horizon terminationFuel (clock .termination) bus.tick
  let bus :=
    { bus with
      health := health.job
      termination := termination.job
      tick := horizon.getD (max health.tick termination.tick) }
  ((bus.observe termination.events).release.pollWaits,
    ⟨health.events, termination.events⟩)

/-- A wait for a request to terminate, looked at once. -/
def wait (bus : Bus H T) : Option Bool :=
  bus.requested.wait.result?

structure Exits where
  health : Option Exit
  termination : Option Exit
deriving DecidableEq

def exits? (bus : Bus H T) : Option Exits :=
  if bus.health.status.isRunning || bus.termination.status.isRunning then none
  else some ⟨bus.health.status.exit?, bus.termination.status.exit?⟩

/-- What may happen to a bus whose channels act out scripts. -/
inductive Step where
  | look
  | feedHealth (addition : Script.Addition)
  | feedTermination (addition : Script.Addition)
  | pass (duration : Nat)
  | abortHealth
  | abortTermination
  | wait
  | spawnWait
  | checkWait
  | join
deriving DecidableEq

/-- What is seen of a step. Only some steps ask about a wait or the exits, and those may have no
answer yet. -/
structure Report where
  activity : Activity
  connected : Bool
  requested : Bool
  healthRunning : Bool
  wait : Option (Option Bool) := none
  exits : Option (Option Exits) := none

abbrev Scripted := Bus Script Script

namespace Scripted

def act (bus : Scripted) : Step → Scripted
  | .feedHealth addition =>
      { bus with health := { bus.health with channel := bus.health.channel.feed addition } }
  | .feedTermination addition =>
      { bus with
        termination :=
          { bus.termination with channel := bus.termination.channel.feed addition } }
  | .abortHealth => { bus with health := bus.health.abort }
  | .abortTermination => { bus with termination := bus.termination.abort }
  | .spawnWait => { bus with waits := bus.waits ++ [bus.requested.wait] }
  | _ => bus

def horizon (bus : Scripted) : Step → Option Nat
  | .pass duration => some (bus.tick + duration)
  | .join => none
  | _ => some bus.tick

/-- The answer to a step that asks about a wait, from what was settled before it. -/
def asked (bus : Scripted) : Step → Option (Option Bool)
  | .wait => some bus.wait
  | .checkWait => some (bus.waits.head?.bind Wait.result?)
  | _ => none

def step (clock : Role → Clock) (bus : Scripted) (step : Step) : Scripted × Report :=
  let asked := bus.asked step
  let acted := bus.act step
  let (bus, activity) :=
    acted.settle (bus.horizon step) acted.health.patience acted.termination.patience clock
  (bus,
    { activity := activity
      connected := bus.connected.raised
      requested := bus.requested.raised
      healthRunning := bus.health.status.isRunning
      wait := asked
      exits := if step = .join then some bus.exits? else none })

/-- The reports of a row of steps. Nothing follows a join. -/
def run (clock : Role → Clock) (bus : Scripted) : List Step → List Report
  | [] => []
  | s :: steps =>
      let (bus, report) := bus.step clock s
      report :: if s = .join then [] else run clock bus steps

end Scripted

end Bus

end Heartbeat
