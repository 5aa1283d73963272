import Heartbeat.Channel.Endpoint
import Heartbeat.Channel.Outcome

/-!
What a responder is seen to do.
-/

namespace Heartbeat

inductive Call where
  | prepare (endpoint : Endpoint)
  | dial (endpoint : Endpoint)
  | receive
  | send (bytes : Bytes)
  | close
  | sleep (duration : Nat)
deriving DecidableEq

/-- What others wait for: that the channel is connected, and that shutdown is requested. -/
inductive Milestone where
  | connected
  | requested
deriving DecidableEq

inductive Event where
  | call (call : Call)
  | notice (notice : Notice)
  | milestone (milestone : Milestone)
deriving DecidableEq

namespace Event

def call? : Event → Option Call
  | .call c => some c
  | _ => none

def ofAnswer (made : Call) (notices : List Notice) : List Event :=
  .call made :: notices.map .notice

end Event

end Heartbeat
