import Heartbeat.Channel.Outcome
import Heartbeat.Stream.Sink
import Heartbeat.Stream.Source

/-!
Datagrams on a stream. Each is sent as a frame: four bytes of length, most significant first, one
byte of version, and the datagram itself.
-/

namespace Heartbeat.Frame

def version : UInt8 := 1

def headerSize : Nat := 5

/-- No datagram is larger, whatever limit a caller sets. -/
def maxSize : Nat := 16777216

def limit (max : Nat) : Nat := min max maxSize

def header (payload : Bytes) : Bytes :=
  Bytes.bigEndian4 payload.length ++ [version]

def encode (payload : Bytes) : Bytes :=
  header payload ++ payload

def announced (header : Bytes) : Nat × UInt8 :=
  (Bytes.ofBigEndian (header.take 4), header.getD 4 0)

def unsupportedVersion (found : UInt8) : String :=
  "Unsupported protocol version: " ++ toString found.toNat ++ ", expected "
    ++ toString version.toNat

def discarded (skipped length : Nat) : Notice :=
  ⟨.trace, .frames,
    "Discarded " ++ toString skipped ++ " of " ++ toString length ++ " oversized payload bytes"⟩

/-- A reader that has to wait has read nothing yet, as far as the source is concerned. -/
def readPayload (length : Nat) (before after : Source) : Answer Source Reception :=
  let pulled := after.pull length
  let left := { after with pieces := pulled.rest }
  match pulled.halt with
  | .filled => ⟨.datagram pulled.bytes, left, []⟩
  | .ended => ⟨.failed .closed, left, []⟩
  | .failed error => ⟨.failed (.ofRead error), left, []⟩
  | .waiting => ⟨.waiting, before, []⟩

/-- Passes over a payload that is too large. One that breaks off is dropped as well: the next
reader finds out. -/
def skipPayload (length limit : Nat) (before after : Source) : Answer Source Reception :=
  let pulled := after.pull length
  let left := { after with pieces := pulled.rest }
  match pulled.halt with
  | .failed error => ⟨.failed (.ofRead error), left, []⟩
  | .waiting => ⟨.waiting, before, []⟩
  | _ => ⟨.failed (.tooLarge length limit), left, [discarded pulled.bytes.length length]⟩

/-- The next datagram. One that is larger than `max` is passed over, so that the source stands at
the next frame again. -/
def read (max : Nat) (source : Source) : Answer Source Reception :=
  let pulled := source.pull headerSize
  let left := { source with pieces := pulled.rest }
  match pulled.halt with
  | .ended => ⟨.failed .closed, left, []⟩
  | .failed error => ⟨.failed (.ofRead error), left, []⟩
  | .waiting => ⟨.waiting, source, []⟩
  | .filled =>
      let (length, found) := announced pulled.bytes
      if found ≠ version then ⟨.failed (.protocol (unsupportedVersion found)), left, []⟩
      else if limit max < length then skipPayload length (limit max) source left
      else readPayload length source left

def writeParts (parts : List Bytes) (sink : Sink) : Except IoError Unit × Sink :=
  match parts with
  | [] => sink.flush
  | part :: parts =>
      match sink.writeAll part with
      | (.error error, sink) => (.error error, sink)
      | (.ok (), sink) => writeParts parts sink

def lengthOverflow : String := "Payload too large for u32"

/-- Sends a datagram as a frame, unless it is too large or its length does not fit the header. -/
def write (payload : Bytes) (max : Nat) (sink : Sink) : Except ChannelFault Unit × Sink :=
  if limit max < payload.length then (.error (.tooLarge payload.length (limit max)), sink)
  else if 4294967296 ≤ payload.length then (.error (.protocol lengthOverflow), sink)
  else
    let (result, sink) := writeParts [header payload, payload] sink
    (result.mapError .io, sink)

end Heartbeat.Frame
