import Heartbeat.Calendar.Printer
import Heartbeat.Config.Environment
import Heartbeat.Host.Files
import Heartbeat.Log.Filter

/-!
Where the log goes: to a file in the directory that the configuration names, or else to the
standard error output.
-/

namespace Heartbeat

/-- A journal without a file writes to the standard error output. -/
structure Journal where
  filter : Filter
  file : Option String := none
deriving DecidableEq

/-- A notice as the log holds it, with the time at which it was made. -/
structure Entry where
  date : Calendar.Instant
  notice : Notice
deriving DecidableEq

inductive JournalFault where
  | directory
  | file
deriving DecidableEq

namespace Journal

/-- The filter of the environment counts if it is in order, and else that of the configuration. -/
def filterOf (env : Environment) (config : Config) : Filter :=
  match env.logFilter.bind Filter.ofStrict? with
  | some filter => filter
  | none => .ofLenient config.level

/-- A file without a name is named after the day. -/
def fileName (date : Calendar.Instant) (config : Config) : String :=
  if config.logFile = "" then String.ofList date.date.text else config.logFile

def start (env : Environment) (config : Config) (date : Calendar.Instant) (files : Files) :
    Except JournalFault (Journal × Files) :=
  let filter := filterOf env config
  match config.logDirectory with
  | none => .ok (⟨filter, none⟩, files)
  | some directory =>
      let path := Path.join directory (fileName date config)
      match files.makeDirectories directory with
      | none => .error .directory
      | some files =>
          match files.append path [] with
          | none => .error .file
          | some files => .ok (⟨filter, some path⟩, files)

end Journal

namespace Entry

def line (entry : Entry) : String :=
  String.ofList entry.date.rfc3339 ++ " " ++ entry.notice.level.name ++ " "
    ++ entry.notice.speaker.target ++ ": " ++ entry.notice.text

end Entry

end Heartbeat
