import Heartbeat.Config.Basic
import Heartbeat.Host.Path

/-!
What the program learns from its environment: where configuration files may be, where the sockets
are by default, and what to log.
-/

namespace Heartbeat

/-- `home` is the directory of the user, wherever it was found: the one that is named in the
environment, or else the one in the user database. -/
structure Environment where
  home : Option String := none
  configHome : Option String := none
  configDirs : Option String := none
  runtimeDir : Option String := none
  logFilter : Option String := none
deriving DecidableEq

namespace Environment

def directoryName : String := "worker-respondent"

def fileName : String := "respondent.toml"

def absolute? (path : String) : Option String :=
  if Path.isAbsolute path then some path else none

def splitColons : List Char → List (List Char)
  | [] => [[]]
  | c :: text =>
      if c = ':' then [] :: splitColons text
      else
        match splitColons text with
        | [] => [[c]]
        | part :: parts => (c :: part) :: parts

/-- The directory of a user, in a user database with a line for each. -/
def homeIn? (database : String) (user : Nat) : Option String :=
  (database.splitOn "\n").findSome? fun line =>
    match (splitColons line.toList).map String.ofList with
    | [_, _, number, _, _, home, _] => if number.toNat? = some user then some home else none
    | _ => none

/-- Only absolute paths count, for this directory and for those of the system. Without a home there
is none, even if it would be elsewhere. -/
def userDirectory? (env : Environment) : Option String :=
  env.home.map fun home => (env.configHome.bind absolute?).getD (Path.join home ".config")

def systemDirectories (env : Environment) : List String :=
  let given := (env.configDirs.map String.toList).getD []
  match (splitColons given).filterMap fun path => absolute? (String.ofList path) with
  | [] => ["/etc/xdg"]
  | paths => paths

def candidates? (env : Environment) : Option (List String) :=
  env.userDirectory?.map fun user =>
    (user :: env.systemDirectories).map fun directory =>
      Path.join (Path.join directory directoryName) fileName

def runtimeDirectory (env : Environment) : String :=
  Path.join (env.runtimeDir.getD "/tmp") directoryName

end Environment

namespace Config

def healthAddress (config : Config) (env : Environment) : String :=
  config.healthSocket.getD (Path.join env.runtimeDirectory "health.sock")

def terminationAddress (config : Config) (env : Environment) : String :=
  config.terminationSocket.getD (Path.join env.runtimeDirectory "termination.sock")

def healthEndpoint (config : Config) (env : Environment) : Endpoint :=
  ⟨config.healthAddress env, config.maxFrame⟩

def terminationEndpoint (config : Config) (env : Environment) : Endpoint :=
  ⟨config.terminationAddress env, config.maxFrame⟩

end Config

end Heartbeat
