import Heartbeat.Channel.Script
import Heartbeat.Responder.Machine

/-!
A responder at work on its channel. A job runs until it ends or has to wait; what it waits for is
more to receive, or a time on the clock.
-/

namespace Heartbeat

inductive Status where
  | running (phase : Phase)
  | finished (exit : Exit)
  | crashed
  | aborted
deriving DecidableEq

/-- `turns` are those that have led the job on. -/
structure Job (C : Type) where
  responder : Responder
  channel : C
  status : Status := .running .starting
  turns : Nat := 0

namespace Status

def isRunning : Status → Bool
  | .running _ => true
  | _ => false

def exit? : Status → Option Exit
  | .finished exit => some exit
  | _ => none

def ofVerdict (phase : Phase) : Verdict Phase Exit → Status
  | .go phase => .running phase
  | .finished exit => .finished exit
  | .waiting => .running phase
  | .crashed => .crashed

end Status

namespace Job

/-- Stops a job wherever it is. Its channel is not closed. -/
def abort (job : Job C) : Job C :=
  if job.status.isRunning then { job with status := .aborted } else job

/-- `goesOn` tells that only the turns have run out, and not what the job can do by itself. -/
structure Progress (C : Type) where
  job : Job C
  events : List Event
  tick : Nat
  goesOn : Bool

/-- The time at which the job goes on. -/
def Progress.next? (progress : Progress C) : Option Nat :=
  if progress.goesOn then some progress.tick else none

/-- Runs a job up to a time, or as long as it goes on by itself. -/
def run [Channel C] (horizon : Option Nat) (fuel : Nat) (clock : Clock) (tick : Nat)
    (job : Job C) : Progress C :=
  match job.status with
  | .running phase =>
      let run := runTurns (job.responder.turn clock) Responder.wake? horizon fuel tick
        ⟨phase, job.turns⟩ job.channel
      ⟨{ job with
          channel := run.channel
          status := .ofVerdict run.state.phase (run.verdict.map Post.phase)
          turns := run.state.turns },
        run.events, run.tick, run.verdict.goesOn⟩
  | _ => ⟨job, [], tick, false⟩

/-- More turns than a job can make on a script, whatever the script says: a line costs at most
one attempt to connect or one receive, and after the last line only failed receives are left. -/
def patience (job : Job Script) : Nat :=
  10 * (job.channel.length + job.responder.maxFailures.toNat + 3)

end Job

end Heartbeat
