import Heartbeat.Responder.Machine
import Heartbeat.Text.Record

/-!
What both responders are set up with.
-/

namespace Heartbeat

structure Settings where
  delay : Nat
  maxFailures : UInt32
  identity : Identity
  pacing : Pacing := .slept
deriving DecidableEq

namespace Settings

def connector (settings : Settings) (endpoint : Endpoint) : Connector :=
  ⟨endpoint, settings.delay, settings.pacing⟩

def responder (settings : Settings) (role : Role) (endpoint : Endpoint) : Responder where
  role := role
  connector := settings.connector endpoint
  identity := settings.identity
  maxFailures := settings.maxFailures

end Settings

/-! Descriptions -/

def Identity.describe (identity : Identity) : String :=
  Text.record "WorkerIdentity"
    [⟨"name", Text.quoted identity.name⟩, ⟨"pid", toString identity.pid.toNat⟩]

def Endpoint.describe (endpoint : Endpoint) : String :=
  Text.record "ChannelConfig"
    [⟨"address", Text.quoted endpoint.address⟩, ⟨"max_frame_size", toString endpoint.maxFrame⟩]

def Connector.describe (connector : Connector) : String :=
  Text.record "ConnectionManager"
    [⟨"config", connector.endpoint.describe⟩, ⟨"delay", Text.duration connector.delay⟩] false

def Settings.describe (settings : Settings) : String :=
  Text.record "RespondentSettings"
    [⟨"reconnect_delay", Text.duration settings.delay⟩,
      ⟨"max_consecutive_recv_errors", toString settings.maxFailures.toNat⟩,
      ⟨"identity", settings.identity.describe⟩] false

def Exit.describe : Exit → String
  | .terminated => "Terminated"
  | .exhausted consecutive =>
      Text.record "RecvErrorsExhausted" [⟨"consecutive", toString consecutive.toNat⟩]

end Heartbeat
