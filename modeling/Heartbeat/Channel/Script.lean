import Heartbeat.Channel.Basic

/-!
A channel that acts out a script. Each call takes the next line of its part; a part that has run
out lets calls succeed, except that nothing more is received.
-/

namespace Heartbeat

/-- What a call other than a receive does. A success without a mark is not noted by the channel. -/
inductive Cue where
  | succeed
  | succeedUnmarked
  | fail (fault : ChannelFault)
  | crash
deriving DecidableEq

/-- What a receive brings. Silence never ends. -/
inductive Arrival where
  | datagram (bytes : Bytes)
  | fault (fault : ChannelFault)
  | silence
  | crash
deriving DecidableEq

/-- When nothing is left to receive, a live channel waits for more lines and another one is
closed. A channel that has fallen silent stays so. -/
structure Script where
  prepared : Bool := false
  dialed : Bool := false
  live : Bool := false
  silent : Bool := false
  preparing : List Cue := []
  dialing : List Cue := []
  sending : List Cue := []
  closing : List Cue := []
  arrivals : List Arrival := []
deriving DecidableEq

namespace Cue

def next (cues : List Cue) : Cue :=
  cues.headD .succeed

def reaction : Cue → Reaction
  | .succeed => .done
  | .succeedUnmarked => .done
  | .fail fault => .failed fault
  | .crash => .crashed

end Cue

namespace Script

def prepare (script : Script) : Answer Script Reaction :=
  let cue := Cue.next script.preparing
  ⟨cue.reaction,
    { script with
      prepared := cue = .succeed || script.prepared
      preparing := script.preparing.tail }, []⟩

def dial (script : Script) : Answer Script Reaction :=
  let cue := Cue.next script.dialing
  ⟨cue.reaction,
    { script with
      dialed := cue = .succeed || script.dialed
      dialing := script.dialing.tail }, []⟩

def send (script : Script) : Answer Script Reaction :=
  ⟨(Cue.next script.sending).reaction, { script with sending := script.sending.tail }, []⟩

/-- Closing takes both marks away, even if it fails. -/
def close (script : Script) : Answer Script Reaction :=
  ⟨(Cue.next script.closing).reaction,
    { script with
      prepared := false
      dialed := false
      closing := script.closing.tail }, []⟩

def receive (script : Script) : Answer Script Reception :=
  if script.silent then ⟨.waiting, script, []⟩
  else
    match script.arrivals with
    | [] =>
        ⟨if script.live then .waiting else .failed .closed, script, []⟩
    | arrival :: arrivals =>
        let script := { script with arrivals := arrivals }
        match arrival with
        | .datagram bytes => ⟨.datagram bytes, script, []⟩
        | .fault fault => ⟨.failed fault, script, []⟩
        | .silence => ⟨.waiting, { script with silent := true }, []⟩
        | .crash => ⟨.crashed, script, []⟩

instance : Channel Script where
  prepare _ := prepare
  dial _ := dial
  send _ := send
  receive := receive
  close := close
  isPrepared := prepared
  isDialed := dialed

structure Addition where
  preparing : List Cue := []
  dialing : List Cue := []
  sending : List Cue := []
  closing : List Cue := []
  arrivals : List Arrival := []
deriving DecidableEq

def feed (script : Script) (addition : Addition) : Script :=
  { script with
    preparing := script.preparing ++ addition.preparing
    dialing := script.dialing ++ addition.dialing
    sending := script.sending ++ addition.sending
    closing := script.closing ++ addition.closing
    arrivals := script.arrivals ++ addition.arrivals }

def length (script : Script) : Nat :=
  script.preparing.length + script.dialing.length + script.arrivals.length

end Script

end Heartbeat
