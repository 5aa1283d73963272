import Heartbeat.Channel.Exchange
import Heartbeat.Config.Printer
import Heartbeat.Main
import Heartbeat.Program
import Heartbeat.Proofs.Message.Stability
import Heartbeat.Proofs.Responder.Health
import Heartbeat.Proofs.Responder.Likeness
import Heartbeat.Proofs.Responder.Termination
import Heartbeat.Proofs.Stream.Interruption
import Heartbeat.Signal.Readers
import Heartbeat.Proofs.Channel.Stream
import Heartbeat.Proofs.Responder.Refinement
import Heartbeat.Proofs.Responder.Socket
import Heartbeat.Proofs.Responder.Moves
import Heartbeat.Proofs.Responder.Passage
import Heartbeat.Proofs.Signal.Latch
import Heartbeat.Proofs.Responder.Signals
import Heartbeat.Proofs.Responder.Safety
import Heartbeat.Proofs.Responder.Attempts
import Heartbeat.Proofs.Signal.Switch
import Heartbeat.Proofs.Channel.Prospects
import Heartbeat.Proofs.Responder.Reconnection
import Heartbeat.Proofs.Responder.Patience
import Heartbeat.Proofs.Responder.Settling
import Heartbeat.Proofs.Responder.Weaving
import Heartbeat.Proofs.Responder.Independence
import Heartbeat.Proofs.Responder.Teardown
import Heartbeat.Proofs.Stream.Sending
import Heartbeat.Proofs.Json.Compact
import Heartbeat.Proofs.Json.Locality
import Heartbeat.Proofs.Message.Fields
import Heartbeat.Proofs.Message.Layout
import Heartbeat.Proofs.Message.Extent
import Heartbeat.Proofs.Responder.Replies
import Heartbeat.Proofs.Config.Merging
import Heartbeat.Proofs.Config.Loading
import Heartbeat.Proofs.Responder.Counting
import Heartbeat.Proofs.Responder.Performance
