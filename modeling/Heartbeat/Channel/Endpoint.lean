import Heartbeat.Host.Path

/-!
Where a channel connects, and how large a datagram may be on it.
-/

namespace Heartbeat

structure Endpoint where
  address : String
  maxFrame : Nat
deriving DecidableEq

namespace Endpoint

def defaultMaxFrame : Nat := 1048576

def new (address : String) : Endpoint :=
  ⟨address, defaultMaxFrame⟩

/-- Addresses are kept as they were written, and agree if they name the same path. -/
def agrees (a b : Endpoint) : Bool :=
  Path.components a.address = Path.components b.address ∧ a.maxFrame = b.maxFrame

end Endpoint

end Heartbeat
