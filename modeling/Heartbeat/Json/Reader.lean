import Heartbeat.Json.Skipper

/-!
Values that are kept. The walks over lists and objects take the reader of one element as an
argument, so that typed readers share them.
-/

namespace Heartbeat.Json

inductive Step where
  | element (rest : Bytes)
  | closed (rest : Bytes)

/-- Whether another element of a list follows. -/
def nextElement (first : Bool) (bytes : Bytes) : Except Fault Step :=
  match skipSpace bytes with
  | [] => .error (.ahead .endInList [])
  | 0x5D :: rest => .ok (.closed rest)
  | 0x2C :: rest =>
      if first then .ok (.element (0x2C :: rest))
      else
        match skipSpace rest with
        | [] => .error (.ahead .endInValue [])
        | 0x5D :: rest => .error (.ahead .trailingComma (0x5D :: rest))
        | rest => .ok (.element rest)
  | rest =>
      if first then .ok (.element rest) else .error (.ahead .expectedListSeparator rest)

/-- Whether another member of an object follows; it starts after the quote of its name. -/
def nextMember (first : Bool) (bytes : Bytes) : Except Fault Step :=
  match skipSpace bytes with
  | [] => .error (.ahead .endInObject [])
  | 0x7D :: rest => .ok (.closed rest)
  | 0x2C :: rest =>
      if first then .error (.ahead .keyNotString (0x2C :: rest))
      else
        match skipSpace rest with
        | [] => .error (.ahead .endInValue [])
        | 0x22 :: rest => .ok (.element rest)
        | 0x7D :: rest => .error (.ahead .trailingComma (0x7D :: rest))
        | rest => .error (.ahead .keyNotString rest)
  | 0x22 :: rest =>
      if first then .ok (.element rest)
      else .error (.ahead .expectedObjectSeparator (0x22 :: rest))
  | rest =>
      .error (.ahead (if first then .keyNotString else .expectedObjectSeparator) rest)

def readElements (element : α → Bytes → Result α) : Nat → Bool → α → Bytes → Result α
  | 0, _, _, bytes => .error (.behind .endInList bytes)
  | fuel + 1, first, held, bytes =>
      match nextElement first bytes with
      | .error fault => .error fault
      | .ok (.closed rest) => .ok (held, rest)
      | .ok (.element rest) =>
          match element held rest with
          | .error fault => .error fault
          | .ok (held, rest) => readElements element fuel false held rest

def readMembers (member : α → Bytes → Result α) : Nat → Bool → α → Bytes → Result α
  | 0, _, _, bytes => .error (.behind .endInObject bytes)
  | fuel + 1, first, held, bytes =>
      match nextMember first bytes with
      | .error fault => .error fault
      | .ok (.closed rest) => .ok (held, rest)
      | .ok (.element rest) =>
          match member held rest with
          | .error fault => .error fault
          | .ok (held, rest) => readMembers member fuel false held rest

def readScalar : Bytes → Result Value
  | [] => .error (.ahead .endInValue [])
  | 0x6E :: rest => (expectWord afterN rest).map (.null, ·)
  | 0x74 :: rest => (expectWord afterT rest).map (.boolean true, ·)
  | 0x66 :: rest => (expectWord afterF rest).map (.boolean false, ·)
  | 0x22 :: rest => (readString rest).map fun (text, rest) => (.string text, rest)
  | 0x2D :: rest => (readNumber true rest).map fun (n, rest) => (.number n, rest)
  | b :: rest =>
      if isDigit b then (readNumber false (b :: rest)).map fun (n, rest) => (.number n, rest)
      else .error (.ahead .expectedValue (b :: rest))

def readItem (read : Bytes → Result Value) (held : List Value) (bytes : Bytes) :
    Result (List Value) :=
  (read bytes).map fun (value, rest) => (value :: held, rest)

def readMember (read : Bytes → Result Value) (held : List (String × Value)) (bytes : Bytes) :
    Except Fault (List (String × Value) × Bytes) := do
  let (name, rest) ← readString bytes
  let rest ← skipColon rest
  let (value, rest) ← read rest
  pure (insertMember name value held, rest)

/-- A value whose brackets may hold what `inner` reads, or may not be opened at all. -/
def readWith (fuel : Nat) (inner : Option (Bytes → Result Value)) (bytes : Bytes) :
    Result Value :=
  match skipSpace bytes with
  | 0x5B :: rest =>
      match inner with
      | none => .error (.ahead .tooDeep (0x5B :: rest))
      | some read =>
          (readElements (readItem read) fuel true [] rest).map
            fun (items, rest) => (.array items.reverse, rest)
  | 0x7B :: rest =>
      match inner with
      | none => .error (.ahead .tooDeep (0x7B :: rest))
      | some read =>
          (readMembers (readMember read) fuel true [] rest).map
            fun (members, rest) => (.object members, rest)
  | rest => readScalar rest

/-- A value with at most `depth` brackets open at once. No list or object has more elements than
the text has bytes, which is what `fuel` is for. -/
def readValue (fuel : Nat) : Nat → Bytes → Result Value
  | 0 => readWith fuel none
  | depth + 1 => readWith fuel (some (readValue fuel depth))

def expectEnd (bytes : Bytes) : Except Fault Unit :=
  match skipSpace bytes with
  | [] => .ok ()
  | rest => .error (.ahead .trailingCharacters rest)

end Heartbeat.Json
