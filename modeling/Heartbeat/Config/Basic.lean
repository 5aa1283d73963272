import Heartbeat.Responder.Settings

/-!
The configuration of the program. A configuration file may set each of these, in one of five
sections; what it does not set has a default.
-/

namespace Heartbeat

structure Config where
  healthSocket : Option String := none
  terminationSocket : Option String := none
  maxFrame : Nat := Endpoint.defaultMaxFrame
  /-- Milliseconds between attempts to connect. -/
  delay : Nat := 1000
  maxFailures : UInt32 := 5
  /-- The name of the worker in replies. -/
  name : String
  level : String := "info"
  logDirectory : Option String := none
  logFile : String := "respondent.log"
deriving DecidableEq

namespace Config

/-- The defaults for a program of a given name, which is also that of the worker. -/
def default (program : String) : Config where
  name := program

def settings (config : Config) (pid : UInt32) : Settings where
  delay := config.delay
  maxFailures := config.maxFailures
  identity := ⟨config.name, pid⟩

end Config

end Heartbeat
