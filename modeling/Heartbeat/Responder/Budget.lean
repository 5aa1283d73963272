/-!
How many receives may fail in a row before a responder gives up.
-/

namespace Heartbeat

structure Budget where
  consecutive : UInt32
  max : UInt32
deriving DecidableEq

namespace Budget

/-- A bound of zero counts as one: a single failure is then enough. -/
def new (max : UInt32) : Budget where
  consecutive := 0
  max := if max = 0 then 1 else max

def isExhausted (budget : Budget) : Bool :=
  budget.max ≤ budget.consecutive

def recordFailure (budget : Budget) : Budget :=
  { budget with consecutive := min (budget.consecutive + 1) budget.max }

def reset (budget : Budget) : Budget :=
  { budget with consecutive := 0 }

end Budget

end Heartbeat
