import Heartbeat.Channel.Basic
import Heartbeat.Stream.Frame

/-!
A channel that carries its datagrams as frames on a stream socket. The other side listens; this
one notes the address when it is prepared, and connects when it is dialed.
-/

namespace Heartbeat

/-- Both directions of a connection, as seen from one end. -/
structure Session where
  incoming : Source
  outgoing : Sink := {}
  shutdownError : Option IoError := none
deriving DecidableEq

def Session.read (max : Nat) (session : Session) : Answer Session Reception :=
  (Frame.read max session.incoming).map fun incoming => { session with incoming := incoming }

structure Socket where
  address : Option String := none
  maxFrame : Nat := 0
  session : Option Session := none
deriving DecidableEq

namespace Socket

def notice (level : Level) (text : String) : Notice :=
  ⟨level, .socket, text⟩

def isPrepared (socket : Socket) : Bool := socket.address.isSome

def isDialed (socket : Socket) : Bool := socket.session.isSome

/-- Only looks at the address. Nothing is asked of the other side yet. -/
def prepare (isDirectory : String → Bool) (endpoint : Endpoint) (socket : Socket) :
    Answer Socket Reaction :=
  if endpoint.address = "" then
    ⟨.failed (.invalidAddress "socket path is empty"), socket, []⟩
  else if isDirectory endpoint.address then
    ⟨.failed (.invalidAddress (endpoint.address ++ " is a directory")), socket, []⟩
  else
    ⟨.done,
      { socket with address := some endpoint.address, maxFrame := endpoint.maxFrame },
      [notice .trace ("Channel initialized for " ++ endpoint.address)]⟩

def dial (connected : Except IoError Session) (endpoint : Endpoint) (socket : Socket) :
    Answer Socket Reaction :=
  if !socket.isPrepared then ⟨.failed .notPrepared, socket, []⟩
  else
    match connected with
    | .error error => ⟨.failed (.io error), socket, []⟩
    | .ok session =>
        ⟨.done, { socket with session := some session },
          [notice .debug ("Channel dialed " ++ endpoint.address)]⟩

def send (payload : Bytes) (socket : Socket) : Answer Socket Reaction :=
  match socket.session with
  | none => ⟨.failed .notConnected, socket, []⟩
  | some session =>
      let (result, outgoing) := Frame.write payload socket.maxFrame session.outgoing
      let socket := { socket with session := some { session with outgoing := outgoing } }
      match result with
      | .ok () =>
          ⟨.done, socket,
            [notice .trace ("Sent frame of " ++ toString payload.length ++ " bytes")]⟩
      | .error fault => ⟨.failed fault, socket, []⟩

/-- What is left of a session after a receive. A fault of the protocol ends it, since nobody knows
where the next frame would begin. -/
def keepSession (session : Session) : Reception → Option Session × List Notice
  | .datagram bytes =>
      (some session,
        [notice .trace ("Received frame of " ++ toString bytes.length ++ " bytes")])
  | .failed (.protocol why) =>
      (none,
        [notice .warning
          ("Dropping desynchronized session: " ++ (ChannelFault.protocol why).text)])
  | _ => (some session, [])

def receive (socket : Socket) : Answer Socket Reception :=
  match socket.session with
  | none => ⟨.failed .notConnected, socket, []⟩
  | some session =>
      let answer := session.read socket.maxFrame
      let (left, notices) := keepSession answer.state answer.result
      ⟨answer.result, { socket with session := left }, answer.notices ++ notices⟩

/-- Forgets the address and the session, even if shutting the session down fails. -/
def close (socket : Socket) : Answer Socket Reaction :=
  let closed := { socket with address := none, session := none }
  match socket.session with
  | none => ⟨.done, closed, []⟩
  | some session =>
      let reaction : Reaction :=
        match session.shutdownError with
        | none => .done
        | some error => .failed (.io error)
      ⟨reaction, closed, [notice .debug "Closing channel"]⟩

end Socket

end Heartbeat
