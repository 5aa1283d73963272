import Heartbeat.Calendar.Printer
import Heartbeat.Json.Printer
import Heartbeat.Message.Topic

/-!
The envelope that carries every message, and the compact JSON text it is sent as.
-/

namespace Heartbeat

structure Envelope where
  schemaVersion : UInt32
  topic : Topic
  created : Calendar.Instant
  payload : Json.Value
deriving DecidableEq

namespace Envelope

def currentVersion : UInt32 := 1

def new (now : Calendar.Instant) (topic : Topic) (payload : Json.Value) : Envelope where
  schemaVersion := currentVersion
  topic := topic
  created := now
  payload := payload

def healthCheckRequest (now : Calendar.Instant) : Envelope :=
  .new now .healthCheckRequest .null

def terminateWorkerRequest (now : Calendar.Instant) : Envelope :=
  .new now .terminateWorkerRequest .null

def createdText (envelope : Envelope) : String :=
  String.ofList envelope.created.rfc3339

/-- The members in the order they are written. Its keys are not sorted as those of a payload. -/
def members (envelope : Envelope) : List (String × Json.Value) :=
  [("SchemaVersion", .number (.integer envelope.schemaVersion.toNat)),
    ("Topic", .string envelope.topic.name),
    ("CreatedDate", .string envelope.createdText),
    ("Payload", envelope.payload)]

/-- Writing cannot fail: a version, a topic and a date have their texts, and a payload is a value of
JSON already. So there is no fault for it. -/
def encode (envelope : Envelope) : Bytes :=
  (Json.Value.object envelope.members).render

end Envelope

end Heartbeat
