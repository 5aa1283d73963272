import Heartbeat.Config.Key
import Heartbeat.Toml.Printer

/-!
Writing a configuration as a TOML document: each group under its header, and all keys that have a
value.
-/

namespace Heartbeat.Config

/-- The written value of a key. Paths that are not set have none. -/
def valueText? (config : Config) : Key → Option String
  | .healthSocket => config.healthSocket.map Toml.quoted
  | .terminationSocket => config.terminationSocket.map Toml.quoted
  | .maxFrame => some (toString config.maxFrame)
  | .delay => some (toString config.delay)
  | .maxFailures => some (toString config.maxFailures.toNat)
  | .name => some (Toml.quoted config.name)
  | .level => some (Toml.quoted config.level)
  | .logDirectory => config.logDirectory.map Toml.quoted
  | .logFile => some (Toml.quoted config.logFile)

def keyText (config : Config) (key : Key) : String :=
  match config.valueText? key with
  | some value => key.text ++ " = " ++ value ++ "\n"
  | none => ""

def groupText (config : Config) (group : Group) : String :=
  "[" ++ group.text ++ "]\n" ++ String.join (group.keys.map config.keyText)

def toToml (config : Config) : String :=
  "\n".intercalate (Group.all.map config.groupText)

end Heartbeat.Config
