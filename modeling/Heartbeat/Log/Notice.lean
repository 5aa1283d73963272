/-!
Notices for the log: how grave they are, which part of the program speaks, and what it says.
-/

namespace Heartbeat

inductive Level where
  | error
  | warning
  | info
  | debug
  | trace
deriving DecidableEq

namespace Level

def name : Level → String
  | .error => "ERROR"
  | .warning => "WARN"
  | .info => "INFO"
  | .debug => "DEBUG"
  | .trace => "TRACE"

/-- Graver levels come first, and have the smaller numbers. -/
def rank : Level → Nat
  | .error => 1
  | .warning => 2
  | .info => 3
  | .debug => 4
  | .trace => 5

def all : List Level := [.error, .warning, .info, .debug, .trace]

end Level

inductive Speaker where
  | program
  | configuration
  | frames
  | socket
  | connection
  | health
  | termination
  | bus
deriving DecidableEq

/-- The name under which a filter knows a part of the program. The name of a part begins with that
of the whole. -/
def Speaker.target : Speaker → String
  | .program => "worker_respondent"
  | .configuration => "worker_respondent::common::config"
  | .frames => "worker_respondent::channel::frame"
  | .socket => "worker_respondent::channel::unix"
  | .connection => "worker_respondent::respondent::connection"
  | .health => "worker_respondent::respondent::health"
  | .termination => "worker_respondent::respondent::termination"
  | .bus => "worker_respondent::respondent::message_bus"

structure Notice where
  level : Level
  speaker : Speaker
  text : String
deriving DecidableEq

end Heartbeat
