import Heartbeat.Channel.Client
import Heartbeat.Config.Loader
import Heartbeat.Log.Journal
import Heartbeat.Responder.Bus

/-!
The program: it loads its configuration, sets up the log, runs both responders until shutdown is
requested or the termination responder has given up, and then stops them. It reads the time anew
for each turn of a responder, in whatever monad there is a clock.
-/

namespace Heartbeat

/-- `offers` are what the listeners at the two addresses will send. -/
structure Surroundings where
  env : Environment
  files : Files
  offers : List Offer
  name : String
  pid : UInt32
  /-- Whether the program is interrupted while it waits. -/
  interrupted : Bool := false

structure Performance where
  exitCode : Nat
  healthReplies : List Bytes := []
  terminationReplies : List Bytes := []
  journal : Option Journal := none
  entries : List Entry := []

namespace Program

/-- A program whose log is open, with what it has told so far. -/
structure Opening where
  config : Config
  journal : Journal
  told : Array Entry

def notice (level : Level) (text : String) : Notice :=
  ⟨level, .program, text⟩

def starting (identity : Identity) : Notice :=
  notice .info
    ("Starting respondent for worker " ++ identity.name ++ " (pid "
      ++ toString identity.pid.toNat ++ ")")

/-- What ends the wait for a request, as the program tells it. A wait that does not end is not told
of. -/
def waited : Option Bool → Bool → List Notice
  | some true, _ => [notice .info "Termination requested by surveyor"]
  | some false, _ =>
      [notice .warning "Termination channel gave up before a shutdown command arrived"]
  | none, true => [notice .info "Interrupted, shutting down"]
  | none, false => []

def describeExit : Option Exit → String
  | none => "None"
  | some exit => "Some(" ++ exit.describe ++ ")"

def stopped (exits : Bus.Exits) : Notice :=
  notice .info
    ("Respondent stopped: " ++
      Text.record "MessageBusExit"
        [⟨"health", describeExit exits.health⟩,
          ⟨"termination", describeExit exits.termination⟩])

def noticesOf (events : List Event) : List Notice :=
  events.filterMap fun event =>
    match event with
    | .notice notice => some notice
    | _ => none

/-- A file tells of the end of each responder, too. -/
def ends (journal : Journal) : List Notice :=
  if journal.file.isSome then [⟨.info, .health, "close"⟩, ⟨.info, .termination, "close"⟩] else []

abbrev Clients := Bus Client Client

def client (around : Surroundings) : Client :=
  { files := around.files, offers := around.offers }

/-- More turns than a responder can make until it waits, or is out of patience. -/
def patience (around : Surroundings) (settings : Settings) : Nat :=
  10 * ((client around).pending + settings.maxFailures.toNat + 10)

def bus (around : Surroundings) (config : Config) : Clients :=
  let settings := config.settings around.pid
  { health :=
      { responder := settings.responder .health (config.healthEndpoint around.env)
        channel := client around }
    termination :=
      { responder := settings.responder .termination (config.terminationEndpoint around.env)
        channel := client around } }

/-- Stops what still runs. A wait that has ended leaves the termination responder to itself. -/
def stop (answer : Option Bool) (bus : Clients) : Clients :=
  let bus := { bus with health := bus.health.abort }
  if answer.isNone then { bus with termination := bus.termination.abort } else bus

def job (bus : Clients) : Role → Job Client
  | .health => bus.health
  | .termination => bus.termination

/-- Takes note of what a responder has done. -/
def note (bus : Clients) (progress : Job.Progress Client) : Role → Clients
  | .health => { bus with health := progress.job }
  | .termination => { bus with termination := progress.job }.observe progress.events

def stamped (date : Calendar.Instant) (notices : List Notice) : Array Entry :=
  (notices.map (Entry.mk date)).toArray

/-- The end of the program, when its responders have done what they can by themselves. -/
def finish (around : Surroundings) (journal : Journal) (date : Calendar.Instant) (bus : Clients)
    (told : Array Entry) : Performance :=
  let settled := bus.release
  let answer := settled.wait
  let final := stop answer settled
  let last := waited answer around.interrupted ++ ends journal ++ (final.exits?.map stopped).toList
  { exitCode := 0
    healthReplies := final.health.channel.replies
    terminationReplies := final.termination.channel.replies
    journal := some journal
    entries :=
      (told ++ stamped date last).toList.filter fun entry =>
        journal.filter.allowsNotice entry.notice }

section

variable {m : Type → Type} [Monad m] (now : m Calendar.Instant)

/-- Lets a responder make its turns, each at its own time, until it has to wait or has ended. -/
def work (role : Role) : Nat → Nat → Clients → Array Entry → m (Clients × Array Entry)
  | 0, _, bus, told => pure (bus, told)
  | fuel + 1, tick, bus, told => do
      let date ← now
      let progress := (job bus role).run none 1 (fun _ => date) tick
      let bus := note bus progress role
      let told := told ++ stamped date (noticesOf progress.events)
      match progress.next? with
      | some next => work role fuel next bus told
      | none => pure (bus, told)

def perform (around : Surroundings) (opening : Opening) : m Performance := do
  let fuel := patience around (opening.config.settings around.pid)
  let begun := bus around opening.config
  let (bus, told) ← work now .health fuel begun.tick begun opening.told
  let (bus, told) ← work now .termination fuel begun.tick bus told
  return finish around opening.journal (← now) bus told

end

/-- A log directory that cannot be made ends the program with code 1; a log file that cannot be
opened brings it down. -/
def exitCodeOf : JournalFault → Nat
  | .directory => 1
  | .file => 101

def start (date : Calendar.Instant) (around : Surroundings) : Except JournalFault Opening :=
  let config := (Config.load around.env around.files around.name).config
  (Journal.start around.env config date around.files).map fun (journal, _) =>
    ⟨config, journal, stamped date
      [starting (config.settings around.pid).identity,
        ⟨.debug, .bus, "Starting health and termination responders"⟩]⟩

def run {m : Type → Type} [Monad m] (now : m Calendar.Instant) (around : Surroundings) :
    m Performance := do
  match start (← now) around with
  | .error fault => return { exitCode := exitCodeOf fault }
  | .ok opening => perform now around opening

end Program

end Heartbeat
