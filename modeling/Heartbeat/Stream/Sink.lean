import Heartbeat.Bytes
import Heartbeat.Channel.Fault

/-!
The writable end of a stream. A sink takes some of the bytes it is offered, so writing all of them
is a row of writes.
-/

namespace Heartbeat

/-- A sink without a bound on its room, or on what one write takes, says `none` there. A sink that
takes nothing fails with the error in `full`, or else just takes nothing. -/
structure Sink where
  room : Option Nat := none
  perWrite : Option Nat := none
  /-- What each of the next writes takes at most. `perWrite` is for those after them. -/
  portions : List Nat := []
  full : Option IoError := none
  flushError : Option IoError := none
  /-- What each write so far has taken, the latest first. -/
  writes : List Bytes := []
  flushes : Nat := 0
deriving DecidableEq

namespace Sink

def accepted (sink : Sink) : Bytes :=
  sink.writes.reverse.flatten

def capped (bound : Option Nat) (n : Nat) : Nat :=
  match bound with
  | none => n
  | some bound => min bound n

theorem capped_le (bound : Option Nat) (n : Nat) : capped bound n ≤ n := by
  cases bound with
  | none => exact Nat.le_refl n
  | some bound => exact Nat.min_le_right bound n

/-- A bound on what the next write takes, whatever room there is. -/
def portion (sink : Sink) : Option Nat :=
  sink.portions.head?.or sink.perWrite

/-- How many of `n` offered bytes the next write takes. -/
def taken (sink : Sink) (n : Nat) : Nat :=
  capped sink.room (capped sink.portion n)

theorem taken_le (sink : Sink) (n : Nat) : sink.taken n ≤ n :=
  Nat.le_trans (capped_le sink.room _) (capped_le sink.portion n)

def take (sink : Sink) (bytes : Bytes) : Sink :=
  { sink with
    room := sink.room.map (· - bytes.length)
    portions := sink.portions.tail
    writes := bytes :: sink.writes }

/-- A write that took nothing has failed, whether the sink said so or not. -/
def refusal (sink : Sink) : IoError :=
  sink.full.getD ⟨.writeZero, "write zero"⟩

def writeAll (bytes : Bytes) (sink : Sink) : Except IoError Unit × Sink :=
  if bytes = [] then (.ok (), sink)
  else
    let n := sink.taken bytes.length
    if _h : n = 0 then (.error sink.refusal, sink)
    else writeAll (bytes.drop n) (sink.take (bytes.take n))
termination_by bytes.length
decreasing_by
  have := sink.taken_le bytes.length
  simp only [List.length_drop]
  omega

def flush (sink : Sink) : Except IoError Unit × Sink :=
  let sink := { sink with flushes := sink.flushes + 1 }
  match sink.flushError with
  | some error => (.error error, sink)
  | none => (.ok (), sink)

end Sink

end Heartbeat
