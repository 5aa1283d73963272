import Heartbeat.Channel.Endpoint
import Heartbeat.Channel.Outcome

/-!
What a responder needs of its channel. A channel is prepared for an endpoint, then dialed, and
then carries datagrams; closing it brings it back to the start.
-/

namespace Heartbeat

class Channel (C : Type) where
  prepare : Endpoint → C → Answer C Reaction
  dial : Endpoint → C → Answer C Reaction
  send : Bytes → C → Answer C Reaction
  receive : C → Answer C Reception
  close : C → Answer C Reaction
  isPrepared : C → Bool
  isDialed : C → Bool

end Heartbeat
