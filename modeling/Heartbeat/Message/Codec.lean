import Heartbeat.Calendar.Reader
import Heartbeat.Message.Body

/-!
From a datagram to an envelope. All fields but the topic have defaults; the date of a message
without one is the time at which it is read.
-/

namespace Heartbeat

inductive CodecFault where
  | malformed (diagnosis : Json.Diagnosis)
  | unexpectedTopic (expected found : Topic)
deriving DecidableEq

def CodecFault.text : CodecFault → String
  | .malformed diagnosis => "malformed envelope: " ++ diagnosis.text
  | .unexpectedTopic expected found =>
      "unexpected topic: expected " ++ expected.name ++ ", found " ++ found.name

namespace Topic

def read (bytes : Bytes) : Json.Result Topic :=
  Json.readVariant (all.map name) ofName? bytes

def decode (bytes : Bytes) : Except CodecFault Topic :=
  let read : Except Json.Fault Topic := do
    let (topic, rest) ← read bytes
    Json.expectEnd rest
    pure topic
  read.mapError fun fault => .malformed (fault.diagnose bytes)

def encode (topic : Topic) : Bytes :=
  Json.renderString topic.name

end Topic

namespace Envelope

def readCreated (bytes : Bytes) : Json.Result Calendar.Instant :=
  match Json.readText .instant bytes with
  | .error fault => .error fault
  | .ok (text, rest) =>
      match Calendar.readInstant text with
      | .ok t => .ok (t, rest)
      | .error fault => .error (.behind (.rejected (.unreadable fault.text)) rest)

/-- With the brackets of the envelope itself, 127 may be open at once. -/
def readPayload (fuel : Nat) (bytes : Bytes) : Json.Result Json.Value :=
  Json.readValue fuel 126 bytes

structure Draft where
  schemaVersion : Option UInt32 := none
  topic : Option Topic := none
  created : Option Calendar.Instant := none
  payload : Option Json.Value := none

namespace Draft

def finish (now : Calendar.Instant) (draft : Draft) : Option Envelope :=
  draft.topic.map fun topic =>
    { schemaVersion := draft.schemaVersion.getD currentVersion
      topic := topic
      created := draft.created.getD now
      payload := draft.payload.getD .null }

/-- Reads the value of a field that may not have been read before. -/
def readField (name : String) (old : Option α) (read : Bytes → Json.Result α)
    (store : α → Draft) (bytes : Bytes) : Json.Result Draft :=
  match old with
  | some _ => .error (.ofWhole (.duplicateField name) 0x7D bytes)
  | none =>
      match Json.skipColon bytes with
      | .error fault => .error fault
      | .ok rest => (read rest).map fun (value, rest) => (store value, rest)

def readMember (fuel : Nat) (draft : Draft) (bytes : Bytes) : Json.Result Draft :=
  match Json.readString bytes with
  | .error fault => .error fault
  | .ok (name, rest) =>
      if name = "SchemaVersion" then
        readField name draft.schemaVersion Json.readWord32
          (fun version => { draft with schemaVersion := some version }) rest
      else if name = "Topic" then
        readField name draft.topic Topic.read
          (fun topic => { draft with topic := some topic }) rest
      else if name = "CreatedDate" then
        readField name draft.created readCreated
          (fun t => { draft with created := some t }) rest
      else if name = "Payload" then
        readField name draft.payload (readPayload fuel)
          (fun payload => { draft with payload := some payload }) rest
      else
        match Json.skipColon rest with
        | .error fault => .error fault
        | .ok rest => (Json.skipValue fuel rest).map (draft, ·)

end Draft

def readObject (now : Calendar.Instant) (fuel : Nat) (bytes : Bytes) : Json.Result Envelope :=
  match Json.readMembers (Draft.readMember fuel) fuel true {} bytes with
  | .error fault => .error fault
  | .ok (draft, rest) =>
      match draft.finish now with
      | some envelope => .ok (envelope, rest)
      | none => .error (.behind (.rejected (.missingField "Topic")) rest)

/-- The fields of an envelope in their order, after the bracket of a list. -/
def readList (now : Calendar.Instant) (fuel : Nat) (bytes : Bytes) :
    Except Json.Fault (Envelope × Bytes) := do
  let (version, rest) ← Json.readOptional Json.readWord32 true bytes
  let (topic, rest) ← Json.readOptional Topic.read false rest
  match topic with
  | none =>
      .error (.ofWhole (.wrongLength 1 "struct Envelope with 4 elements") 0x5D rest)
  | some topic =>
      let (created, rest) ← Json.readOptional readCreated false rest
      let (payload, rest) ← Json.readOptional (readPayload fuel) false rest
      let rest ← Json.expectListEnd rest
      pure
        ({ schemaVersion := version.getD currentVersion
           topic := topic
           created := created.getD now
           payload := payload.getD .null }, rest)

def read (now : Calendar.Instant) (fuel : Nat) (bytes : Bytes) : Json.Result Envelope :=
  match Json.skipSpace bytes with
  | [] => .error (.ahead .endInValue [])
  | 0x5B :: rest => readList now fuel rest
  | 0x7B :: rest => readObject now fuel rest
  | rest => .error (Json.mismatchAt (.record "Envelope") rest)

def parse (now : Calendar.Instant) (bytes : Bytes) : Except Json.Fault Envelope :=
  match read now (bytes.length + 1) bytes with
  | .error fault => .error fault
  | .ok (envelope, rest) => (Json.expectEnd rest).map fun () => envelope

def decode (now : Calendar.Instant) (bytes : Bytes) : Except CodecFault Envelope :=
  (parse now bytes).mapError fun fault => .malformed (fault.diagnose bytes)

def decodeExpecting (now : Calendar.Instant) (expected : Topic) (bytes : Bytes) :
    Except CodecFault Envelope :=
  match decode now bytes with
  | .error fault => .error fault
  | .ok envelope =>
      if envelope.topic = expected then .ok envelope
      else .error (.unexpectedTopic expected envelope.topic)

def payloadAs (read : Json.Value → Except Json.Rejection α) (envelope : Envelope) :
    Except CodecFault α :=
  (read envelope.payload).mapError fun why => .malformed ⟨.rejected why, none⟩

end Envelope

end Heartbeat
