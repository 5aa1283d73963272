import Heartbeat.Bytes
import Heartbeat.Channel.Fault

/-!
The readable end of a stream, as the pieces that its reads will meet. A read never crosses the end
of a piece, so how a text is cut into pieces is how it arrives.
-/

namespace Heartbeat

/-- A lull is a read that brings nothing although the stream goes on after it. -/
inductive Piece where
  | data (bytes : Bytes)
  | lull
  | failure (error : IoError)
deriving DecidableEq

/-- At its end, a live source lets its reader wait for more, and another one has ended. -/
structure Source where
  pieces : List Piece
  live : Bool := false
deriving DecidableEq

inductive Halt where
  | filled
  | ended
  | failed (error : IoError)
  | waiting
deriving DecidableEq

structure Pull where
  bytes : Bytes
  halt : Halt
  rest : List Piece
deriving DecidableEq

namespace Piece

def bytes : Piece → Bytes
  | .data bytes => bytes
  | _ => []

/-- Reads until there are `n` bytes, or until a read brings none. -/
def pull (live : Bool) : Nat → List Piece → Pull
  | 0, pieces => ⟨[], .filled, pieces⟩
  | _ + 1, [] => ⟨[], if live then .waiting else .ended, []⟩
  | _ + 1, .lull :: pieces => ⟨[], .ended, pieces⟩
  | _ + 1, .failure error :: pieces => ⟨[], .failed error, pieces⟩
  | n + 1, .data bytes :: pieces =>
      if n + 1 < bytes.length then
        ⟨bytes.take (n + 1), .filled, .data (bytes.drop (n + 1)) :: pieces⟩
      else
        let more := pull live (n + 1 - bytes.length) pieces
        { more with bytes := bytes ++ more.bytes }

end Piece

namespace Source

def bytes (source : Source) : Bytes :=
  source.pieces.flatMap Piece.bytes

def pull (n : Nat) (source : Source) : Pull :=
  Piece.pull source.live n source.pieces

def append (source : Source) (bytes : Bytes) : Source :=
  { source with pieces := source.pieces ++ [.data bytes] }

end Source

end Heartbeat
