import Heartbeat.Channel.Fault
import Heartbeat.Host.Files

/-!
Why connecting to a socket fails before anybody answers.
-/

namespace Heartbeat.Files

def maxSocketName : Nat := 107

def refused : IoError :=
  ⟨.connectionRefused, "Connection refused (os error 111)"⟩

def denied : IoError :=
  ⟨.permissionDenied, "Permission denied (os error 13)"⟩

/-- Names that start with a zero are no paths, and nobody listens there. -/
def abstractFault (name : String) : IoError :=
  if maxSocketName + 1 < name.utf8ByteSize then
    ⟨.invalidInput, "abstract socket name must be shorter than SUN_LEN"⟩
  else refused

def dialFault? (files : Files) (path : String) : Option IoError :=
  if path.toList.head? = some '\x00' then some (abstractFault path)
  else if path.toList.contains '\x00' then
    some ⟨.invalidInput, "paths must not contain interior null bytes"⟩
  else if maxSocketName < path.utf8ByteSize then
    some ⟨.invalidInput, "path must be shorter than SUN_LEN"⟩
  else if path = "" then some ⟨.invalidInput, "Invalid argument (os error 22)"⟩
  else
    match files.lookup path with
    | .missing => some ⟨.notFound, "No such file or directory (os error 2)"⟩
    | .blocked => some ⟨.notADirectory, "Not a directory (os error 20)"⟩
    | .found (.socket true) => none
    | .found .locked => some denied
    | .found _ => some refused

end Heartbeat.Files
