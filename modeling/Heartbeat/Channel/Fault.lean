/-!
What can go wrong on a channel. Receivers count faults without looking at them; the texts are for
the log.
-/

namespace Heartbeat

structure IoKind where
  name : String
deriving DecidableEq

namespace IoKind

def unexpectedEof : IoKind := ⟨"UnexpectedEof"⟩

def writeZero : IoKind := ⟨"WriteZero"⟩

def notFound : IoKind := ⟨"NotFound"⟩

def notADirectory : IoKind := ⟨"NotADirectory"⟩

def connectionRefused : IoKind := ⟨"ConnectionRefused"⟩

def connectionReset : IoKind := ⟨"ConnectionReset"⟩

def permissionDenied : IoKind := ⟨"PermissionDenied"⟩

def invalidInput : IoKind := ⟨"InvalidInput"⟩

def brokenPipe : IoKind := ⟨"BrokenPipe"⟩

end IoKind

structure IoError where
  kind : IoKind
  text : String
deriving DecidableEq

inductive ChannelFault where
  | notPrepared
  | notConnected
  | closed
  | invalidAddress (why : String)
  | tooLarge (size limit : Nat)
  | protocol (why : String)
  | io (error : IoError)
deriving DecidableEq

namespace ChannelFault

def text : ChannelFault → String
  | .notPrepared => "channel is not initialized"
  | .notConnected => "channel is not connected"
  | .closed => "connection closed by peer"
  | .invalidAddress why => "invalid channel address: " ++ why
  | .tooLarge size limit =>
      "frame size " ++ toString size ++ " exceeds maximum " ++ toString limit
  | .protocol why => "protocol error: " ++ why
  | .io error => "I/O error: " ++ error.text

/-- A read that fails because the stream ended early is the peer's going away. -/
def ofRead (error : IoError) : ChannelFault :=
  if error.kind = .unexpectedEof then .closed else .io error

end ChannelFault

end Heartbeat
