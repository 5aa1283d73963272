/-!
The four kinds of message.
-/

namespace Heartbeat

inductive Topic where
  | healthCheckRequest
  | healthCheckReply
  | terminateWorkerRequest
  | terminateWorkerReply
deriving DecidableEq

namespace Topic

def name : Topic → String
  | .healthCheckRequest => "HealthCheckRequest"
  | .healthCheckReply => "HealthCheckReply"
  | .terminateWorkerRequest => "TerminateWorkerRequest"
  | .terminateWorkerReply => "TerminateWorkerReply"

def all : List Topic :=
  [.healthCheckRequest, .healthCheckReply, .terminateWorkerRequest, .terminateWorkerReply]

def ofName? (name : String) : Option Topic :=
  all.find? (·.name = name)

theorem ofName?_name (topic : Topic) : ofName? topic.name = some topic := by
  cases topic <;> decide

end Topic

end Heartbeat
