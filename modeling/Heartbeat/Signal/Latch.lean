/-!
One-way switches that tasks wait for. A latch is raised at most once and stays raised. It counts
its changes, so that a task which sleeps on it can tell whether it has missed one.
-/

namespace Heartbeat

/-- A latch is writable as long as its only writer is there. -/
structure Latch where
  raised : Bool := false
  changes : Nat := 0
  writable : Bool := true
deriving DecidableEq

/-- A wait is over when the latch was raised, or when it never will be. Before that it is parked,
and remembers how many changes it has seen. -/
inductive Wait where
  | parked (seen : Nat)
  | over (raised : Bool)
deriving DecidableEq

def Wait.result? : Wait → Option Bool
  | .parked _ => none
  | .over raised => some raised

namespace Latch

/-- Says whether this was the call that moved the latch. -/
def raise (latch : Latch) : Bool × Latch :=
  if latch.raised then (false, latch)
  else (true, { latch with raised := true, changes := latch.changes + 1 })

def abandon (latch : Latch) : Latch :=
  { latch with writable := false }

/-- A wait that looks at the latch and goes to sleep if there is something to wait for. -/
def wait (latch : Latch) : Wait :=
  if latch.raised then .over true
  else if latch.writable then .parked latch.changes
  else .over false

/-- A parked wait looks again only if the latch has changed, or has lost its writer. -/
def poll (latch : Latch) : Wait → Wait
  | .parked seen =>
      if latch.changes ≠ seen then latch.wait
      else if latch.writable then .parked seen
      else .over false
  | .over raised => .over raised

end Latch

end Heartbeat
