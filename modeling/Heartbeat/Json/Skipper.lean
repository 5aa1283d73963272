import Heartbeat.Json.Scanner

/-!
Values that nobody keeps. They are checked for their form only: neither the range of a number nor
what a string says matters, and they may be nested without limit.
-/

namespace Heartbeat.Json

def skipString : Bytes → Except Fault Bytes
  | [] => .error (.behind .endInString [])
  | 0x22 :: rest => .ok rest
  | 0x5C :: 0x75 :: a :: b :: c :: d :: rest =>
      match hexUnit? a b c d with
      | none => .error (.behind .invalidEscape rest)
      | some _ => skipString rest
  | 0x5C :: 0x75 :: _ => .error (.behind .endInString [])
  | 0x5C :: b :: rest =>
      match simpleEscape? b with
      | none => .error (.behind .invalidEscape rest)
      | some _ => skipString rest
  | [0x5C] => .error (.behind .endInString [])
  | b :: rest =>
      if b < 0x20 then .error (.behind .controlCharacter (b :: rest)) else skipString rest

def skipExponent (bytes : Bytes) : Except Fault Bytes :=
  match (readSign bytes).2 with
  | [] => .error (.behind .invalidNumber [])
  | b :: rest =>
      if isDigit b then .ok (rest.dropWhile isDigit) else .error (.behind .invalidNumber rest)

def skipFraction (bytes : Bytes) : Except Fault Bytes :=
  match bytes.span isDigit with
  | ([], rest) => .error (.ahead .invalidNumber rest)
  | (_, 0x65 :: rest) => skipExponent rest
  | (_, 0x45 :: rest) => skipExponent rest
  | (_, rest) => .ok rest

def skipAfterInteger : Bytes → Except Fault Bytes
  | 0x2E :: rest => skipFraction rest
  | 0x65 :: rest => skipExponent rest
  | 0x45 :: rest => skipExponent rest
  | rest => .ok rest

def skipNumber : Bytes → Except Fault Bytes
  | [] => .error (.behind .invalidNumber [])
  | 0x30 :: rest =>
      match rest with
      | [] => .ok []
      | b :: after =>
          if isDigit b then .error (.ahead .invalidNumber (b :: after))
          else skipAfterInteger (b :: after)
  | b :: rest =>
      if isDigit b then skipAfterInteger (rest.dropWhile isDigit)
      else .error (.behind .invalidNumber rest)

def skipScalar : Bytes → Except Fault Bytes
  | [] => .error (.ahead .endInValue [])
  | 0x6E :: rest => expectWord afterN rest
  | 0x74 :: rest => expectWord afterT rest
  | 0x66 :: rest => expectWord afterF rest
  | 0x22 :: rest => skipString rest
  | 0x2D :: rest => skipNumber rest
  | b :: rest =>
      if isDigit b then skipNumber (b :: rest) else .error (.ahead .expectedValue (b :: rest))

def skipColon (bytes : Bytes) : Except Fault Bytes :=
  match skipSpace bytes with
  | 0x3A :: rest => .ok rest
  | [] => .error (.ahead .endInObject [])
  | rest => .error (.ahead .expectedColon rest)

def skipName (bytes : Bytes) : Except Fault Bytes :=
  match skipSpace bytes with
  | 0x22 :: rest => skipString rest >>= skipColon
  | [] => .error (.ahead .endInObject [])
  | rest => .error (.ahead .keyNotString rest)

inductive Bracket where
  | list
  | object
deriving DecidableEq

/-- What follows a value: either the skipped whole ends, or the next value does. -/
inductive Skipped where
  | whole (rest : Bytes)
  | upToValue (inside : List Bracket) (rest : Bytes)

def skipAfterValue : List Bracket → Bytes → Except Fault Skipped
  | [], bytes => .ok (.whole bytes)
  | .list :: outer, bytes =>
      match skipSpace bytes with
      | 0x2C :: rest => .ok (.upToValue (.list :: outer) rest)
      | 0x5D :: rest => skipAfterValue outer rest
      | [] => .error (.ahead .endInList [])
      | rest => .error (.ahead .expectedListSeparator rest)
  | .object :: outer, bytes =>
      match skipSpace bytes with
      | 0x2C :: rest => (skipName rest).map (.upToValue (.object :: outer))
      | 0x7D :: rest => skipAfterValue outer rest
      | [] => .error (.ahead .endInObject [])
      | rest => .error (.ahead .expectedObjectSeparator rest)

def skipStep (inside : List Bracket) (bytes : Bytes) : Except Fault Skipped :=
  match skipSpace bytes with
  | 0x5B :: rest =>
      match skipSpace rest with
      | 0x5D :: rest => skipAfterValue inside rest
      | [] => .error (.ahead .endInList [])
      | rest => .ok (.upToValue (.list :: inside) rest)
  | 0x7B :: rest =>
      match skipSpace rest with
      | 0x7D :: rest => skipAfterValue inside rest
      | rest => (skipName rest).map (.upToValue (.object :: inside))
  | rest => skipScalar rest >>= skipAfterValue inside

/-- Every step takes at least one byte, so `fuel` need not exceed the length of the text. -/
def skipFrom : Nat → List Bracket → Bytes → Except Fault Bytes
  | 0, _, bytes => .error (.behind .endInValue bytes)
  | fuel + 1, inside, bytes =>
      match skipStep inside bytes with
      | .error fault => .error fault
      | .ok (.whole rest) => .ok rest
      | .ok (.upToValue inside rest) => skipFrom fuel inside rest

def skipValue (fuel : Nat) (bytes : Bytes) : Except Fault Bytes :=
  skipFrom fuel [] bytes

end Heartbeat.Json
