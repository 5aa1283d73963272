import Heartbeat.Signal.Latch

/-!
A latch with the readers that share it, and the tasks that wait on it. Readers and tasks are
numbered in the order they came; a reader that is dropped leaves its number unused.
-/

namespace Heartbeat.Signal

/-- Each reader remembers how many changes it has seen, and a dropped one nothing. -/
structure Room where
  latch : Latch := {}
  readers : List (Option Nat) := [some 0]
  tasks : List Wait := []
deriving DecidableEq

inductive Step where
  | raise
  | isRaisedForWriter
  | dropWriter
  | subscribe
  | clone (reader : Nat)
  | isRaised (reader : Nat)
  | wait (reader : Nat)
  | drop (reader : Nat)
  | spawn (reader : Nat)
  | check (task : Nat)
deriving DecidableEq

inductive Reply where
  | flag (value : Bool)
  | number (value : Nat)
  | pending
  | noWriter
  | noReader
deriving DecidableEq

def Reply.ofWait (wait : Wait) : Reply :=
  match wait.result? with
  | some raised => .flag raised
  | none => .pending

namespace Room

def reader? (room : Room) (reader : Nat) : Option Nat :=
  room.readers[reader]?.bind id

/-- Tasks run until each of them waits or is over. -/
def settle (room : Room) : Room :=
  { room with tasks := room.tasks.map room.latch.poll }

def asWriter (room : Room) (act : Reply × Room) : Reply × Room :=
  if room.latch.writable then act else (.noWriter, room)

def asReader (room : Room) (reader : Nat) (act : Nat → Reply × Room) : Reply × Room :=
  match room.reader? reader with
  | some seen => act seen
  | none => (.noReader, room)

def addReader (room : Room) (seen : Nat) : Reply × Room :=
  (.number room.readers.length, { room with readers := room.readers ++ [some seen] })

def act (room : Room) : Step → Reply × Room
  | .raise =>
      let (moved, latch) := room.latch.raise
      room.asWriter (.flag moved, { room with latch := latch })
  | .isRaisedForWriter => room.asWriter (.flag room.latch.raised, room)
  | .dropWriter => (.flag room.latch.writable, { room with latch := room.latch.abandon })
  | .subscribe => room.asWriter (room.addReader room.latch.changes)
  | .clone reader => room.asReader reader fun seen => room.addReader seen
  | .isRaised reader => room.asReader reader fun _ => (.flag room.latch.raised, room)
  | .wait reader => room.asReader reader fun _ => (.ofWait room.latch.wait, room)
  | .drop reader =>
      (.flag (room.reader? reader).isSome, { room with readers := room.readers.set reader none })
  | .spawn reader =>
      room.asReader reader fun _ =>
        (.number room.tasks.length, { room with tasks := room.tasks ++ [room.latch.wait] })
  | .check task =>
      (match room.tasks[task]? with
        | some wait => .ofWait wait
        | none => .pending, room)

def step (room : Room) (step : Step) : Reply × Room :=
  let (reply, room) := room.act step
  (reply, room.settle)

def run (room : Room) : List Step → List Reply
  | [] => []
  | s :: steps =>
      let (reply, room) := room.step s
      reply :: room.run steps

end Room

end Heartbeat.Signal
