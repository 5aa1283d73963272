import Heartbeat.Channel.Socket
import Heartbeat.Host.Dialing

/-!
A socket on a host whose listeners have made up their minds: each offers one session, in which all
that it will send stands ready.
-/

namespace Heartbeat

structure Offer where
  address : String
  session : Session
deriving DecidableEq

/-- `delivered` is all that has reached the other side. -/
structure Client where
  files : Files
  offers : List Offer
  socket : Socket := {}
  delivered : Bytes := []

namespace Client

/-- A listener that offers nothing else accepts, and is silent. -/
def offered (client : Client) (address : String) : Session :=
  let way := client.files.way address
  match client.offers.find? fun offer => client.files.way offer.address = way with
  | some offer => offer.session
  | none => { incoming := ⟨[], true⟩ }

def connect (client : Client) (endpoint : Endpoint) : Except IoError Session :=
  match client.files.dialFault? endpoint.address with
  | some error => .error error
  | none => .ok (client.offered endpoint.address)

def withSocket (client : Client) (socket : Socket) : Client :=
  { client with socket := socket }

def deliver (client : Client) (socket : Socket) : Client :=
  match socket.session with
  | none => client.withSocket socket
  | some session =>
      { client with
        socket :=
          { socket with
            session := some { session with outgoing := { session.outgoing with writes := [] } } }
        delivered := client.delivered ++ session.outgoing.accepted }

instance : Channel Client where
  prepare endpoint client :=
    (client.socket.prepare client.files.isDirectory endpoint).map client.withSocket
  dial endpoint client :=
    (client.socket.dial (client.connect endpoint) endpoint).map client.withSocket
  send bytes client := (client.socket.send bytes).map client.deliver
  receive client := client.socket.receive.map client.withSocket
  close client := client.socket.close.map client.withSocket
  isPrepared client := client.socket.isPrepared
  isDialed client := client.socket.isDialed

/-- The datagrams in a text of frames, as far as they are whole. -/
def datagrams (fuel : Nat) (source : Source) : List Bytes :=
  match fuel with
  | 0 => []
  | fuel + 1 =>
      let answer := Frame.read Frame.maxSize source
      match answer.result with
      | .datagram bytes => bytes :: datagrams fuel answer.state
      | _ => []

def replies (client : Client) : List Bytes :=
  datagrams (client.delivered.length + 1) ⟨[.data client.delivered], false⟩

def pending (client : Client) : Nat :=
  client.offers.foldr (fun offer n => offer.session.incoming.bytes.length + n) 0

end Client

end Heartbeat
