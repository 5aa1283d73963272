import Heartbeat.Program

/-!
The command. A listener is a file, or a pipe: what it sends is read from its address, and the
replies to it are left in a file beside it.
-/

namespace Heartbeat.Command

/-- The user as whom the program runs, if the system tells. -/
def user? : IO (Option Nat) := do
  let status ← IO.FS.readFile ((← IO.currentDir) / "/proc/self/status")
  return (status.splitOn "Uid:\t")[1]?.bind fun ids => (ids.splitOn "\t").head?.bind String.toNat?

def home? : IO (Option String) := do
  if let some home ← IO.getEnv "HOME" then return some home
  let some user ← user? | return none
  try return Environment.homeIn? (← IO.FS.readFile ((← IO.currentDir) / "/etc/passwd")) user
  catch _ => return none

def environment : IO Environment := do
  return {
    home := ← home?
    configHome := ← IO.getEnv "XDG_CONFIG_HOME"
    configDirs := ← IO.getEnv "XDG_CONFIG_DIRS"
    runtimeDir := ← IO.getEnv "XDG_RUNTIME_DIR"
    logFilter := ← IO.getEnv "RUST_LOG" }

def pathOf (way : List String) : String :=
  "/" ++ "/".intercalate way

/-- Nobody listens on a socket: those who listen are files and pipes. -/
def nodeAt? (way : List String) : IO (Option FileNode) := do
  let path := (← IO.currentDir) / pathOf way
  if ← path.isDir then return some .directory
  unless ← path.pathExists do return none
  try return some (.plain (← IO.FS.readBinFile path).toList)
  catch _ => return some (if (← path.metadata).type == .file then .locked else .socket false)

/-- Adds what there is on a way that goes on from a directory. -/
def survey (files : Files) (done : List String) : List String → IO Files
  | [] => return files
  | name :: names => do
      let way := done ++ [name]
      match ← nodeAt? way with
      | none => return files
      | some node => survey (files.put way node) way names

def surveyPath (files : Files) (path : String) : IO Files :=
  survey files [] (files.way path)

/-- Waits until something is found at a path. -/
partial def await (delay : UInt32) (path : String) : IO Unit := do
  unless ← ((← IO.currentDir) / path).pathExists do
    IO.sleep delay
    await delay path

/-- All that is found at an address is what its listener sends. -/
def listen (files : Files) (address : String) : IO (Files × List Offer) := do
  let files ← surveyPath files address
  let way := files.way address
  match files.node? way with
  | some (.plain bytes) =>
      return (files.put way (.socket true), [⟨address, { incoming := ⟨[.data bytes], false⟩ }⟩])
  | _ => return (files, [])

def leaveReplies (address : String) (replies : List Bytes) : IO Unit :=
  unless replies.isEmpty do
    let bytes := (replies.map Frame.encode).flatten
    IO.FS.writeBinFile (address ++ ".replies") ⟨bytes.toArray⟩

/-- The first of the numbers that the system tells a program about itself, and a clock. It shows
the time at which the system was asked for that number, and what has gone by since then. -/
def self : IO (UInt32 × IO Calendar.Instant) := do
  let path := (← IO.currentDir) / "/proc/self/stat"
  let text ← IO.FS.readFile path
  let pid := ((text.splitOn " ").head?.bind String.toNat?).getD 0
  let asked := (← path.metadata).modified
  let begun ← IO.monoNanosNow
  let now : IO Calendar.Instant := do
    let nanos := asked.nsec.toNat + ((← IO.monoNanosNow) - begun)
    return .ofUnix (asked.sec + nanos / 1000000000) (nanos % 1000000000)
  return (pid.toUInt32, now)

def record (performance : Performance) (directory : Option String) : IO Unit := do
  let text := "".intercalate (performance.entries.map fun entry => entry.line ++ "\n")
  match performance.journal.bind (·.file) with
  | none => IO.eprint text
  | some path =>
      IO.FS.createDirAll (directory.getD "")
      let handle ← IO.FS.Handle.mk path .append
      handle.putStr text

def run : IO UInt32 := do
  let env ← environment
  let (pid, now) ← self
  let date ← now
  let name := (← IO.appPath).fileStem.getD ""
  let bare : Files := { here := (Path.components (← IO.currentDir).toString).tail }
  let found ← (env.candidates?.getD []).foldlM surveyPath bare
  let config := (Config.load env found name).config
  let found ← match config.logDirectory with
    | some directory => surveyPath found (Path.join directory (Journal.fileName date config))
    | none => pure found
  let around : Surroundings := { env, name, pid, files := found, offers := [] }
  match Program.start date around with
  | .error fault => return (Program.exitCodeOf fault).toUInt32
  | .ok opening =>
      let health := config.healthAddress env
      let termination := config.terminationAddress env
      for address in [health, termination] do
        await config.delay.toUInt32 address
      let (files, healthOffer) ← listen found health
      let (files, terminationOffer) ← listen files termination
      let around := { around with files, offers := healthOffer ++ terminationOffer }
      let performance ← Program.perform now around opening
      record performance config.logDirectory
      leaveReplies health performance.healthReplies
      leaveReplies termination performance.terminationReplies
      return performance.exitCode.toUInt32

end Heartbeat.Command

def main : IO UInt32 :=
  Heartbeat.Command.run
