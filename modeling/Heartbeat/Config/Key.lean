import Heartbeat.Config.Basic
import Heartbeat.Toml.Value

/-!
The keys of the configuration file, and the values that they take.
-/

namespace Heartbeat.Config

inductive Key where
  | healthSocket
  | terminationSocket
  | maxFrame
  | delay
  | maxFailures
  | name
  | level
  | logDirectory
  | logFile
deriving DecidableEq

inductive Group where
  | channel
  | reconnect
  | receive
  | worker
  | tracing
deriving DecidableEq

namespace Key

def text : Key → String
  | .healthSocket => "health_socket"
  | .terminationSocket => "termination_socket"
  | .maxFrame => "max_frame_size"
  | .delay => "delay_ms"
  | .maxFailures => "max_consecutive_errors"
  | .name => "name"
  | .level => "level"
  | .logDirectory => "log_directory"
  | .logFile => "log_file"

end Key

namespace Group

def text : Group → String
  | .channel => "channel"
  | .reconnect => "reconnect"
  | .receive => "receive"
  | .worker => "worker"
  | .tracing => "tracing"

/-- How a group is called when something else stands in its place. -/
def title : Group → String
  | .channel => "ChannelSection"
  | .reconnect => "ReconnectConfig"
  | .receive => "ReceiveConfig"
  | .worker => "WorkerConfig"
  | .tracing => "TracingConfig"

def keys : Group → List Key
  | .channel => [.healthSocket, .terminationSocket, .maxFrame]
  | .reconnect => [.delay]
  | .receive => [.maxFailures]
  | .worker => [.name]
  | .tracing => [.level, .logDirectory, .logFile]

def all : List Group := [.channel, .reconnect, .receive, .worker, .tracing]

def ofText? (text : String) : Option Group :=
  all.find? (·.text = text)

def key? (group : Group) (text : String) : Option Key :=
  group.keys.find? (·.text = text)

end Group

end Heartbeat.Config

namespace Heartbeat.Toml.Value

def toText (expected : Shape) : Value → Except Mismatch String
  | .string text => .ok text
  | value => .error (.kind value.found expected)

/-- A natural number below `bound`, whose type is called `name`. -/
def toNat (bound : Nat) (name : String) : Value → Except Mismatch Nat
  | .integer n => boundedNat bound (.unsigned name) n
  | value => .error (.kind value.found (.unsigned name))

end Heartbeat.Toml.Value

namespace Heartbeat.Config

def set (config : Config) (key : Key) (value : Toml.Value) : Except Mismatch Config :=
  match key with
  | .healthSocket => (value.toText .path).map fun text => { config with healthSocket := some text }
  | .terminationSocket =>
      (value.toText .path).map fun text => { config with terminationSocket := some text }
  | .maxFrame =>
      (value.toNat 18446744073709551616 "usize").map fun n => { config with maxFrame := n }
  | .delay => (value.toNat 18446744073709551616 "u64").map fun n => { config with delay := n }
  | .maxFailures =>
      (value.toNat 4294967296 "u32").map fun n => { config with maxFailures := n.toUInt32 }
  | .name => (value.toText .string).map fun text => { config with name := text }
  | .level => (value.toText .string).map fun text => { config with level := text }
  | .logDirectory => (value.toText .path).map fun text => { config with logDirectory := some text }
  | .logFile => (value.toText .string).map fun text => { config with logFile := text }

end Heartbeat.Config
