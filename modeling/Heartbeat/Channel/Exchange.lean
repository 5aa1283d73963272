import Heartbeat.Channel.Socket
import Heartbeat.Host.Dialing

/-!
A socket and its peer, step by step. The peer listens, accepts connections one after another, and
writes and reads on the one that it has accepted last.
-/

namespace Heartbeat

/-- The connections are numbered as they are made. `received` holds, for each, what its server end
has not read yet. -/
structure Exchange where
  files : Files
  socket : Socket := {}
  /-- The connection of the socket's session. -/
  current : Option Nat := none
  received : List Source := []
  /-- The connections that were made and not accepted yet. -/
  backlog : List Nat := []
  /-- The connection that the peer has accepted. -/
  peer : Option Nat := none

namespace Exchange

inductive Step where
  | bind (address : String)
  | unbind (address : String)
  | accept
  | prepare (endpoint : Endpoint)
  | dial (endpoint : Endpoint)
  | send (bytes : Bytes)
  | receive
  | close
  | peerWrite (bytes : Bytes)
  | peerRead (max : Nat)
  | peerShutdown
  | peerClose
deriving DecidableEq

/-- What a step gives back. Some steps give nothing. -/
inductive Result where
  | quiet
  | done
  | datagram (bytes : Bytes)
  | failed (fault : ChannelFault)
  | blocked
deriving DecidableEq

def Result.ofReaction : Reaction → Result
  | .done => .done
  | .failed fault => .failed fault
  | .crashed => .blocked

def Result.ofReception : Reception → Result
  | .datagram bytes => .datagram bytes
  | .failed fault => .failed fault
  | .waiting => .blocked
  | .crashed => .blocked

structure Report where
  result : Result
  notices : List Notice := []

def brokenPipe : IoError :=
  ⟨.brokenPipe, "Broken pipe (os error 32)"⟩

def connectionReset : IoError :=
  ⟨.connectionReset, "Connection reset by peer (os error 104)"⟩

/-- The end of a stream whose writer has gone. Its going is noticed as an error if it had left
something unread. -/
def ended (source : Source) (unread : Bool) : Source :=
  ⟨source.pieces ++ (if unread then [.failure connectionReset] else []), false⟩

def holdsUnread (source : Source) : Bool :=
  !source.bytes.isEmpty

def mapReceived (exchange : Exchange) (connection : Option Nat) (change : Source → Source) :
    Exchange :=
  match connection with
  | some n => { exchange with received := exchange.received.modify n change }
  | none => exchange

def mapSession (exchange : Exchange) (change : Session → Session) : Exchange :=
  { exchange with
    socket := { exchange.socket with session := exchange.socket.session.map change } }

/-- The server end of a connection after the socket has let go of its end. -/
def hangUp (exchange : Exchange) (session : Option Session) : Exchange :=
  match session with
  | none => exchange
  | some session =>
      exchange.mapReceived exchange.current (ended · (holdsUnread session.incoming))

/-- Makes a socket the new one, and tells the server end if its session has changed hands. -/
def replace (exchange : Exchange) (socket : Socket) : Exchange :=
  let exchange :=
    if socket.isDialed then exchange
    else { exchange.hangUp exchange.socket.session with current := none }
  { exchange with socket := socket }

def transfer (exchange : Exchange) : Exchange :=
  match exchange.socket.session with
  | none => exchange
  | some session =>
      let written := session.outgoing.accepted
      let exchange :=
        exchange.mapSession fun session =>
          { session with outgoing := { session.outgoing with writes := [] } }
      exchange.mapReceived exchange.current (·.append written)

/-- The socket's end of a connection after the server end has gone. -/
def abandoned (session : Session) (unread : Bool) : Session :=
  { session with
    incoming := ended session.incoming unread
    outgoing := { session.outgoing with room := some 0, full := some brokenPipe } }

def dropServer (exchange : Exchange) (connection : Option Nat) (reset : Bool) : Exchange :=
  if connection.isSome ∧ connection = exchange.current then
    let unread := ((connection.bind (exchange.received[·]?)).map holdsUnread).getD false
    exchange.mapSession (abandoned · (unread || reset))
  else exchange

def bind (exchange : Exchange) (address : String) : Exchange :=
  let files := exchange.files
  { exchange with files := files.put (files.way address) (.socket true) }

/-- Connections that were not accepted end with their listener. -/
def unbind (exchange : Exchange) (address : String) : Exchange :=
  let files := exchange.files
  let exchange := { exchange with files := files.put (files.way address) (.socket false) }
  { exchange.backlog.foldl (fun exchange n => exchange.dropServer (some n) true) exchange with
    backlog := [] }

def accept (exchange : Exchange) : Exchange :=
  match exchange.backlog with
  | [] => exchange
  | n :: backlog =>
      { exchange.dropServer exchange.peer false with peer := some n, backlog := backlog }

def dial (exchange : Exchange) (endpoint : Endpoint) : Report × Exchange :=
  let connected : Except IoError Session :=
    match exchange.files.dialFault? endpoint.address with
    | some error => .error error
    | none => .ok { incoming := ⟨[], true⟩ }
  let answer := exchange.socket.dial connected endpoint
  let report : Report := ⟨.ofReaction answer.result, answer.notices⟩
  if answer.result = .done then
    let n := exchange.received.length
    (report,
      { exchange.hangUp exchange.socket.session with
        socket := answer.state
        current := some n
        received := (exchange.hangUp exchange.socket.session).received ++ [⟨[], true⟩]
        backlog := exchange.backlog ++ [n] })
  else (report, { exchange with socket := answer.state })

def send (exchange : Exchange) (bytes : Bytes) : Report × Exchange :=
  let answer := exchange.socket.send bytes
  (⟨.ofReaction answer.result, answer.notices⟩,
    { exchange with socket := answer.state }.transfer)

/-- A receive that is given up loses the part of a frame that it has already taken. -/
def receive (exchange : Exchange) : Report × Exchange :=
  let answer := exchange.socket.receive
  let report : Report := ⟨.ofReception answer.result, answer.notices⟩
  let taken :=
    exchange.mapSession fun session => (session.read exchange.socket.maxFrame).state
  let exchange := taken.replace answer.state
  if answer.result = .waiting then
    (report, exchange.mapSession fun session =>
      { session with incoming := { session.incoming with pieces := [] } })
  else (report, exchange)

def peerWrite (exchange : Exchange) (bytes : Bytes) : Report × Exchange :=
  let reachable :=
    exchange.peer.isSome ∧ exchange.peer = exchange.current
      ∧ exchange.socket.session.any (·.incoming.live)
  if bytes = [] then (⟨.done, []⟩, exchange)
  else if reachable then
    (⟨.done, []⟩,
      exchange.mapSession fun session =>
        { session with incoming := session.incoming.append bytes })
  else (⟨.failed (.io brokenPipe), []⟩, exchange)

def peerRead (exchange : Exchange) (max : Nat) : Report × Exchange :=
  match exchange.peer.bind (exchange.received[·]?) with
  | none => (⟨.failed .notConnected, []⟩, exchange)
  | some source =>
      let answer := Frame.read max source
      (⟨.ofReception answer.result, answer.notices⟩,
        exchange.mapReceived exchange.peer fun _ => answer.state)

def peerShutdown (exchange : Exchange) : Exchange :=
  if exchange.peer.isSome ∧ exchange.peer = exchange.current then
    exchange.mapSession fun session =>
      { session with incoming := { session.incoming with live := false } }
  else exchange

def step (exchange : Exchange) : Step → Report × Exchange
  | .bind address => (⟨.quiet, []⟩, exchange.bind address)
  | .unbind address => (⟨.quiet, []⟩, exchange.unbind address)
  | .accept => (⟨.quiet, []⟩, exchange.accept)
  | .prepare endpoint =>
      let answer := exchange.socket.prepare exchange.files.isDirectory endpoint
      (⟨.ofReaction answer.result, answer.notices⟩, { exchange with socket := answer.state })
  | .dial endpoint => exchange.dial endpoint
  | .send bytes => exchange.send bytes
  | .receive => exchange.receive
  | .close =>
      let answer := exchange.socket.close
      (⟨.ofReaction answer.result, answer.notices⟩, exchange.replace answer.state)
  | .peerWrite bytes => exchange.peerWrite bytes
  | .peerRead max => exchange.peerRead max
  | .peerShutdown => (⟨.done, []⟩, exchange.peerShutdown)
  | .peerClose =>
      (⟨.quiet, []⟩, { exchange.dropServer exchange.peer false with peer := none })

end Exchange

end Heartbeat
