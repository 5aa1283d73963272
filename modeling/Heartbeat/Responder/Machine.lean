import Heartbeat.Message.Codec
import Heartbeat.Responder.Budget
import Heartbeat.Responder.Connector

/-!
The two responders. Both connect, then receive until too many receives in a row have failed, and
close their channel in the end. One answers every health check; the other one answers a single
request to terminate, and ends with it.
-/

namespace Heartbeat

inductive Role where
  | health
  | termination
deriving DecidableEq

namespace Role

def name : Role → String
  | .health => "health"
  | .termination => "termination"

def title : Role → String
  | .health => "Health"
  | .termination => "Termination"

def speaker : Role → Speaker
  | .health => .health
  | .termination => .termination

/-- The only topic that is answered. -/
def request : Role → Topic
  | .health => .healthCheckRequest
  | .termination => .terminateWorkerRequest

def reply (identity : Identity) (date : Calendar.Instant) : Role → Envelope
  | .health => .healthCheckReply date identity.health
  | .termination => .terminateWorkerReply date identity.termination

end Role

inductive Exit where
  | terminated
  | exhausted (consecutive : UInt32)
deriving DecidableEq

/-- The dates that a clock shows when it is read in the first turn, in the second one, and so on. -/
abbrev Clock := Nat → Calendar.Instant

structure Responder where
  role : Role
  connector : Connector
  identity : Identity
  maxFailures : UInt32
deriving DecidableEq

inductive Phase where
  | starting
  | connecting (attempt : Attempt)
  | listening (budget : Budget)
  | receiving (budget : Budget)
  | replying (budget : Budget)
  | closing (exit : Exit)
deriving DecidableEq

/-- Where a responder is, and how many turns have led it on to there. -/
structure Post where
  phase : Phase := .starting
  turns : Nat := 0
deriving DecidableEq

namespace Role

def listeningNotice (role : Role) (address : String) : Notice :=
  ⟨.info, role.speaker, role.title ++ " responder listening on " ++ address⟩

def receiveFailed (role : Role) (budget : Budget) (fault : ChannelFault) : Notice :=
  ⟨.warning, role.speaker,
    "Failed to receive on " ++ role.name ++ " channel (" ++ toString budget.consecutive.toNat
      ++ "/" ++ toString budget.max.toNat ++ "): " ++ fault.text⟩

def givingUp (role : Role) (budget : Budget) : Notice :=
  ⟨.error, role.speaker,
    role.title ++ " responder giving up after " ++ toString budget.consecutive.toNat
      ++ " consecutive receive failures"⟩

def closeFailed (role : Role) (fault : ChannelFault) : Notice :=
  ⟨.warning, role.speaker, "Failed to close " ++ role.name ++ " channel: " ++ fault.text⟩

def discarding (role : Role) (fault : CodecFault) : Notice :=
  ⟨.trace, role.speaker, "Discarding datagram on " ++ role.name ++ " channel: " ++ fault.text⟩

def accepted (role : Role) (request : Envelope) : Notice :=
  let created := String.ofList request.created.plain
  match role with
  | .health => ⟨.trace, .health, "Health check request created at " ++ created⟩
  | .termination =>
      ⟨.debug, .termination, "Termination requested (envelope created at " ++ created ++ ")"⟩

def sendFailed (role : Role) (fault : ChannelFault) : Notice :=
  match role with
  | .health => ⟨.warning, .health, "Failed to send health check reply: " ++ fault.text⟩
  | .termination => ⟨.warning, .termination, "Failed to send termination reply: " ++ fault.text⟩

end Role

namespace Responder

def announce (responder : Responder) : List Event :=
  let notice := Event.notice (responder.role.listeningNotice responder.connector.endpoint.address)
  match responder.role with
  | .health => [notice]
  | .termination => [.milestone .connected, notice]

def listen (responder : Responder) : Phase :=
  .listening (.new responder.maxFailures)

def start [Channel C] (responder : Responder) (channel : C) : Turn C Phase Exit :=
  if Channel.isPrepared channel && Channel.isDialed channel then
    ⟨.go responder.listen, channel, responder.announce⟩
  else ⟨.go (.connecting {}), channel, []⟩

def connect [Channel C] (responder : Responder) (tick : Nat) (attempt : Attempt) (channel : C) :
    Turn C Phase Exit :=
  let turn := responder.connector.step tick attempt channel
  match turn.verdict with
  | .go attempt => ⟨.go (.connecting attempt), turn.channel, turn.events⟩
  | .finished _ => ⟨.go responder.listen, turn.channel, turn.events ++ responder.announce⟩
  | .waiting => ⟨.waiting, turn.channel, turn.events⟩
  | .crashed => ⟨.crashed, turn.channel, turn.events⟩

/-- A failed receive leads back to the next one, or to the end. -/
def failReceive (responder : Responder) (budget : Budget) (fault : ChannelFault) :
    Phase × List Event :=
  let budget := budget.recordFailure
  let failed := Event.notice (responder.role.receiveFailed budget fault)
  if budget.isExhausted then
    (.closing (.exhausted budget.consecutive),
      [failed, .notice (responder.role.givingUp budget)])
  else (.listening budget, [failed])

/-- A datagram that is no request of the right topic is dropped. -/
def accept (responder : Responder) (date : Calendar.Instant) (budget : Budget) (bytes : Bytes) :
    Phase × List Event :=
  match Envelope.decodeExpecting date responder.role.request bytes with
  | .ok request => (.replying budget.reset, [.notice (responder.role.accepted request)])
  | .error fault => (.listening budget.reset, [.notice (responder.role.discarding fault)])

def receive [Channel C] (responder : Responder) (date : Calendar.Instant) (budget : Budget)
    (channel : C) : Turn C Phase Exit :=
  let answer := Channel.receive channel
  let notices := answer.notices.map Event.notice
  match answer.result with
  | .datagram bytes =>
      let (phase, events) := responder.accept date budget bytes
      ⟨.go phase, answer.state, notices ++ events⟩
  | .failed fault =>
      let (phase, events) := responder.failReceive budget fault
      ⟨.go phase, answer.state, notices ++ events⟩
  | .waiting => ⟨.waiting, answer.state, notices⟩
  | .crashed => ⟨.crashed, answer.state, notices⟩

/-- What is done once the reply was sent, whether or not it got through. -/
def conclude (responder : Responder) (budget : Budget) : Phase × List Event :=
  match responder.role with
  | .health => (.listening budget, [])
  | .termination => (.closing .terminated, [.milestone .requested])

/-- A request that was accepted is always answered. There is no turn without a reply to send, since
every reply can be written. -/
def reply [Channel C] (responder : Responder) (date : Calendar.Instant) (budget : Budget)
    (channel : C) : Turn C Phase Exit :=
  let bytes := (responder.role.reply responder.identity date).encode
  let answer := Channel.send bytes channel
  let events := Event.ofAnswer (.send bytes) answer.notices
  let (phase, more) := responder.conclude budget
  match answer.result with
  | .done => ⟨.go phase, answer.state, events ++ more⟩
  | .failed fault =>
      ⟨.go phase, answer.state, events ++ .notice (responder.role.sendFailed fault) :: more⟩
  | .crashed => ⟨.crashed, answer.state, events⟩

def close [Channel C] (responder : Responder) (exit : Exit) (channel : C) : Turn C Phase Exit :=
  let answer := Channel.close channel
  let events := Event.ofAnswer .close answer.notices
  match answer.result with
  | .done => ⟨.finished exit, answer.state, events⟩
  | .failed fault =>
      ⟨.finished exit, answer.state,
        events ++ [.notice (responder.role.closeFailed fault)]⟩
  | .crashed => ⟨.crashed, answer.state, events⟩

def step [Channel C] (responder : Responder) (date : Calendar.Instant) (tick : Nat)
    (phase : Phase) (channel : C) : Turn C Phase Exit :=
  match phase with
  | .starting => responder.start channel
  | .connecting attempt => responder.connect tick attempt channel
  | .listening budget => ⟨.go (.receiving budget), channel, [.call .receive]⟩
  | .receiving budget => responder.receive date budget channel
  | .replying budget => responder.reply date budget channel
  | .closing exit => responder.close exit channel

/-- One turn, at the time that the clock shows then. One who waits has read nothing off it. -/
def turn [Channel C] (responder : Responder) (clock : Clock) (tick : Nat) (post : Post)
    (channel : C) : Turn C Post Exit :=
  let turn := responder.step (clock post.turns) tick post.phase channel
  ⟨turn.verdict.map (⟨·, post.turns + 1⟩), turn.channel, turn.events⟩

def wake? (post : Post) : Option Nat :=
  match post.phase with
  | .connecting attempt => Connector.wake? attempt
  | _ => none

end Responder

end Heartbeat
