import Heartbeat.Bytes
import Heartbeat.Channel.Fault
import Heartbeat.Log.Notice

/-!
How a call on a channel ends, what it leaves behind and what it puts into the log.
-/

namespace Heartbeat

/-- A call may also bring its caller down. -/
inductive Reaction where
  | done
  | failed (fault : ChannelFault)
  | crashed
deriving DecidableEq

/-- Receiving is the only call that may have to wait. -/
inductive Reception where
  | datagram (bytes : Bytes)
  | failed (fault : ChannelFault)
  | waiting
  | crashed
deriving DecidableEq

structure Answer (σ ρ : Type) where
  result : ρ
  state : σ
  notices : List Notice := []
deriving DecidableEq

def Answer.map (f : σ → τ) (answer : Answer σ ρ) : Answer τ ρ :=
  ⟨answer.result, f answer.state, answer.notices⟩

end Heartbeat
