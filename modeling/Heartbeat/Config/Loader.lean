import Heartbeat.Config.Environment
import Heartbeat.Config.Reader
import Heartbeat.Host.Files
import Heartbeat.Log.Notice
import Heartbeat.Text.Utf8

/-!
Finding and loading the configuration file. The first candidate that exists decides; if it cannot
be used for any reason, all defaults hold.
-/

namespace Heartbeat.Config

structure Loaded where
  config : Config
  notices : List Notice

def exists? (files : Files) (path : String) : Bool :=
  match files.lookup path with
  | .found _ => true
  | _ => false

def readText? (files : Files) (path : String) : Option String :=
  match files.lookup path with
  | .found (.plain bytes) => Utf8.decode? bytes
  | _ => none

/-- Why there is no text at a path. -/
def unread (files : Files) (path : String) : String :=
  match files.lookup path with
  | .found (.plain _) => "stream did not contain valid UTF-8"
  | .found .directory => "Is a directory (os error 21)"
  | .found .locked => "Permission denied (os error 13)"
  | .found (.socket _) => "No such device or address (os error 6)"
  | .missing => "No such file or directory (os error 2)"
  | .blocked => "Not a directory (os error 20)"

def configurationNotice (level : Level) (text : String) : Notice :=
  ⟨level, .configuration, text⟩

def loadFile (files : Files) (program path : String) : Loaded :=
  let loading :=
    configurationNotice .info ("Loading respondent configuration from: " ++ path)
  let failed (what : String) (why : String) : Loaded :=
    ⟨.default program,
      [loading, configurationNotice .warning
        ("Failed to " ++ what ++ " respondent configuration file " ++ path ++ ": " ++ why)]⟩
  match readText? files path with
  | none => failed "read" (unread files path)
  | some text =>
      match parse program text with
      | .ok config => ⟨config, [loading]⟩
      | .error fault => failed "parse" fault.text

def load (env : Environment) (files : Files) (program : String) : Loaded :=
  match env.candidates? with
  | none =>
      ⟨.default program,
        [configurationNotice .warning
          "Failed to initialize XDG directories for respondent config: $HOME must be set"]⟩
  | some candidates =>
      match candidates.find? (exists? files) with
      | none =>
          ⟨.default program,
            [configurationNotice .info
              "No respondent configuration file found, using defaults"]⟩
      | some path => loadFile files program path

end Heartbeat.Config
