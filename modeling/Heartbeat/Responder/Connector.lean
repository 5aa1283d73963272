import Heartbeat.Channel.Basic
import Heartbeat.Responder.Turn

/-!
Bringing a channel up. The other side may start later, so an attempt that fails is repeated after
a fixed delay, for ever; the channel is closed in between, so that nothing half done is left.
-/

namespace Heartbeat

/-- How the delay between attempts is spent: noted down only, left out, or slept through. -/
inductive Pacing where
  | noted
  | skipped
  | slept
deriving DecidableEq

structure Connector where
  endpoint : Endpoint
  delay : Nat
  pacing : Pacing
deriving DecidableEq

inductive Stage where
  | checking
  | dialing
  | discarding
  | pausing
  | asleep (wake : Nat)
deriving DecidableEq

/-- `failed` counts in 64 bits, and wraps around. -/
structure Attempt where
  failed : UInt64 := 0
  stage : Stage := .checking
deriving DecidableEq

namespace Attempt

def enter (attempt : Attempt) (stage : Stage) : Attempt :=
  { attempt with stage := stage }

/-- A failed attempt is counted, and its channel is closed next. -/
def fail (attempt : Attempt) : Attempt :=
  ⟨attempt.failed + 1, .discarding⟩

end Attempt

namespace Connector

def failure (connector : Connector) (what : String) (attempt : Attempt) (fault : ChannelFault) :
    Notice :=
  ⟨.warning, .connection,
    "Failed to " ++ what ++ " channel " ++ connector.endpoint.address ++ " (attempt "
      ++ toString attempt.failed.toNat ++ "): " ++ fault.text⟩

def ready (connector : Connector) (failed : UInt64) : Notice :=
  ⟨.debug, .connection,
    "Channel " ++ connector.endpoint.address ++ " ready after " ++ toString failed.toNat
      ++ " failed attempt(s)"⟩

def closeIgnored (fault : ChannelFault) : Notice :=
  ⟨.trace, .connection,
    "Ignoring close error while discarding channel state: " ++ fault.text⟩

/-- The turn after a call that is one step of an attempt. -/
def advance (connector : Connector) (call : Call) (what : String) (attempt : Attempt)
    (next : Stage) (answer : Answer C Reaction) : Turn C Attempt UInt64 :=
  let events := Event.ofAnswer call answer.notices
  match answer.result with
  | .done => ⟨.go (attempt.enter next), answer.state, events⟩
  | .failed fault =>
      ⟨.go attempt.fail, answer.state,
        events ++ [.notice (connector.failure what attempt.fail fault)]⟩
  | .crashed => ⟨.crashed, answer.state, events⟩

/-- The turn after the channel of a failed attempt was closed, with whatever result. -/
def discard (attempt : Attempt) (answer : Answer C Reaction) : Turn C Attempt UInt64 :=
  let events := Event.ofAnswer .close answer.notices
  match answer.result with
  | .done => ⟨.go (attempt.enter .pausing), answer.state, events⟩
  | .failed fault =>
      ⟨.go (attempt.enter .pausing), answer.state, events ++ [.notice (closeIgnored fault)]⟩
  | .crashed => ⟨.crashed, answer.state, events⟩

def pause (connector : Connector) (tick : Nat) (attempt : Attempt) (channel : C) :
    Turn C Attempt UInt64 :=
  match connector.pacing with
  | .noted => ⟨.go (attempt.enter .checking), channel, [.call (.sleep connector.delay)]⟩
  | .skipped => ⟨.go (attempt.enter .checking), channel, []⟩
  | .slept => ⟨.go (attempt.enter (.asleep (tick + connector.delay))), channel, []⟩

/-- Ends with the count of the attempts that failed. -/
def step [Channel C] (connector : Connector) (tick : Nat) (attempt : Attempt) (channel : C) :
    Turn C Attempt UInt64 :=
  match attempt.stage with
  | .checking =>
      if Channel.isDialed channel then
        ⟨.finished attempt.failed, channel, [.notice (connector.ready attempt.failed)]⟩
      else
        connector.advance (.prepare connector.endpoint) "initialize" attempt .dialing
          (Channel.prepare connector.endpoint channel)
  | .dialing =>
      connector.advance (.dial connector.endpoint) "dial" attempt .checking
        (Channel.dial connector.endpoint channel)
  | .discarding => discard attempt (Channel.close channel)
  | .pausing => connector.pause tick attempt channel
  | .asleep wake =>
      if wake ≤ tick then ⟨.go (attempt.enter .checking), channel, []⟩
      else ⟨.waiting, channel, []⟩

def wake? (attempt : Attempt) : Option Nat :=
  match attempt.stage with
  | .asleep wake => some wake
  | _ => none

/-- Connects, starting at time zero, and sleeping through every delay. -/
def connect [Channel C] (connector : Connector) (fuel : Nat) (channel : C) :
    Run C Attempt UInt64 :=
  runTurns connector.step wake? none fuel 0 {} channel

end Connector

end Heartbeat
