import Heartbeat.Json.Printer
import Heartbeat.Json.Reader

/-!
Readers that want a value of a certain shape, and name what they found instead. A bracket is not
entered to say that it is the wrong thing; any other wrong value is read to its end first.
-/

namespace Heartbeat.Json

def Number.found : Number → Found
  | .integer n => .integer n
  | .float negative size => .float (String.ofList (floatText negative size))

def Value.found : Value → Found
  | .null => .null
  | .boolean value => .boolean value
  | .number n => n.found
  | .string text => .string text
  | .array _ => .sequence
  | .object _ => .map

def Fault.mismatch (expected : Shape) (found : Found) (rest : Bytes) : Fault :=
  .behind (.rejected (.mismatch (.kind found expected))) rest

def mismatchAt (expected : Shape) (bytes : Bytes) : Fault :=
  match bytes with
  | 0x5B :: _ => .mismatch expected .sequence bytes
  | 0x7B :: _ => .mismatch expected .map bytes
  | _ =>
      match readScalar bytes with
      | .error fault => fault
      | .ok (value, rest) => .mismatch expected value.found rest

def word32 : Shape := .unsigned "u32"

def Number.toWord32 (n : Number) : Except Mismatch UInt32 :=
  match n with
  | .integer value => (boundedNat 4294967296 word32 value).map UInt32.ofNat
  | .float .. => .error (.kind n.found word32)

def readWord32Of (number : Result Number) : Result UInt32 :=
  match number with
  | .error fault => .error fault
  | .ok (n, rest) =>
      match n.toWord32 with
      | .error why => .error (.behind (.rejected (.mismatch why)) rest)
      | .ok word => .ok (word, rest)

def readWord32 (bytes : Bytes) : Result UInt32 :=
  match skipSpace bytes with
  | [] => .error (.ahead .endInValue [])
  | 0x2D :: rest => readWord32Of (readNumber true rest)
  | b :: rest =>
      if isDigit b then readWord32Of (readNumber false (b :: rest))
      else .error (mismatchAt word32 (b :: rest))

def readText (expected : Shape) (bytes : Bytes) : Result String :=
  match skipSpace bytes with
  | [] => .error (.ahead .endInValue [])
  | 0x22 :: rest => readString rest
  | rest => .error (mismatchAt expected rest)

def readUnit (bytes : Bytes) : Result Unit :=
  match skipSpace bytes with
  | [] => .error (.ahead .endInValue [])
  | 0x6E :: rest => (expectWord afterN rest).map ((), ·)
  | rest => .error (mismatchAt .unit rest)

def readKnown (known : List String) (ofName? : String → Option α) (bytes : Bytes) : Result α :=
  match readString bytes with
  | .error fault => .error fault
  | .ok (name, rest) =>
      match ofName? name with
      | some value => .ok (value, rest)
      | none => .error (.behind (.rejected (.unknownVariant name known)) rest)

/-- The only member of an object, after the quote of its name: one of a few names and null. -/
def readSole (known : List String) (ofName? : String → Option α) (bytes : Bytes) :
    Except Fault (α × Bytes) := do
  let (value, rest) ← readKnown known ofName? bytes
  let rest ← skipColon rest
  let ((), rest) ← readUnit rest
  match skipSpace rest with
  | 0x7D :: rest => .ok (value, rest)
  | [] => .error (.behind .endInObject [])
  | rest => .error (.behind .expectedValue rest)

/-- One of a few names, written as a string or as an object with that one member, of value null. -/
def readVariant (known : List String) (ofName? : String → Option α) (bytes : Bytes) :
    Result α :=
  match skipSpace bytes with
  | [] => .error (.ahead .endInValue [])
  | 0x22 :: rest => readKnown known ofName? rest
  | 0x7B :: rest =>
      match skipSpace rest with
      | [] => .error (.ahead .endInValue [])
      | 0x22 :: rest => readSole known ofName? rest
      | 0x7D :: rest => .error (.ahead .expectedValue (0x7D :: rest))
      | rest => .error (.ahead .keyNotString rest)
  | rest => .error (.ahead .expectedValue rest)

/-- The next element of a list, or nothing before its closing bracket, which is left standing. -/
def readOptional (read : Bytes → Result α) (first : Bool) (bytes : Bytes) :
    Result (Option α) :=
  match nextElement first bytes with
  | .error fault => .error fault
  | .ok (.closed _) => .ok (none, bytes)
  | .ok (.element rest) => (read rest).map fun (value, rest) => (some value, rest)

def expectListEnd (bytes : Bytes) : Except Fault Bytes :=
  match skipSpace bytes with
  | [] => .error (.ahead .endInList [])
  | 0x5D :: rest => .ok rest
  | 0x2C :: rest =>
      match skipSpace rest with
      | 0x5D :: rest => .error (.ahead .trailingComma (0x5D :: rest))
      | rest => .error (.ahead .trailingCharacters rest)
  | rest => .error (.ahead .trailingCharacters rest)

/-- A rejected whole is faulted behind its closing bracket, if that is what comes next. -/
def Fault.ofWhole (why : Rejection) (closing : UInt8) (bytes : Bytes) : Fault :=
  match skipSpace bytes with
  | [] => .behind (.rejected why) []
  | b :: rest =>
      if b = closing then .behind (.rejected why) rest else .behind (.rejected why) (b :: rest)

end Heartbeat.Json
