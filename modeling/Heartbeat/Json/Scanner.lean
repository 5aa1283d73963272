import Heartbeat.Json.Fault
import Heartbeat.Json.Value
import Heartbeat.Text.Utf8

/-!
The tokens of JSON that are kept: words, strings and numbers. Each reader starts at the head of
its bytes and gives back what follows its token.
-/

namespace Heartbeat.Json

def isSpace (b : UInt8) : Bool :=
  b == 0x20 || b == 0x09 || b == 0x0A || b == 0x0D

def skipSpace (bytes : Bytes) : Bytes :=
  bytes.dropWhile isSpace

/-- Takes exactly the bytes of `word`; a wrong byte is taken as well. -/
def expectWord : Bytes → Bytes → Except Fault Bytes
  | [], bytes => .ok bytes
  | _ :: _, [] => .error (.behind .endInValue [])
  | w :: word, b :: bytes =>
      if b = w then expectWord word bytes else .error (.behind .expectedWord bytes)

/-! The rest of each word after its first letter. -/

def afterN : Bytes := [0x75, 0x6C, 0x6C]

def afterT : Bytes := [0x72, 0x75, 0x65]

def afterF : Bytes := [0x61, 0x6C, 0x73, 0x65]

/-! Strings -/

def hexDigit? (b : UInt8) : Option Nat :=
  if 0x30 ≤ b ∧ b ≤ 0x39 then some (b.toNat - 0x30)
  else if 0x41 ≤ b ∧ b ≤ 0x46 then some (b.toNat - 0x37)
  else if 0x61 ≤ b ∧ b ≤ 0x66 then some (b.toNat - 0x57)
  else none

def hexUnit? (a b c d : UInt8) : Option Nat := do
  let a ← hexDigit? a
  let b ← hexDigit? b
  let c ← hexDigit? c
  let d ← hexDigit? d
  pure (((a * 16 + b) * 16 + c) * 16 + d)

def simpleEscape? (b : UInt8) : Option UInt8 :=
  match b with
  | 0x22 => some 0x22
  | 0x5C => some 0x5C
  | 0x2F => some 0x2F
  | 0x62 => some 0x08
  | 0x66 => some 0x0C
  | 0x6E => some 0x0A
  | 0x72 => some 0x0D
  | 0x74 => some 0x09
  | _ => none

def isLowSurrogate (unit : Nat) : Bool := 0xDC00 ≤ unit && unit ≤ 0xDFFF

def isHighSurrogate (unit : Nat) : Bool := 0xD800 ≤ unit && unit ≤ 0xDBFF

def joinSurrogates (high low : Nat) : Char :=
  Char.ofNat ((high - 0xD800) * 0x400 + (low - 0xDC00) + 0x10000)

/-- The bytes of a string up to its closing quote, escapes resolved. `read` holds the bytes read
so far, last one first. -/
def scanString (read : Bytes) : Bytes → Except Fault (Bytes × Bytes)
  | [] => .error (.behind .endInString [])
  | 0x22 :: rest => .ok (read.reverse, rest)
  | 0x5C :: 0x75 :: a :: b :: c :: d :: rest =>
      match hexUnit? a b c d with
      | none => .error (.behind .invalidEscape rest)
      | some unit =>
          if isLowSurrogate unit then .error (.behind .loneSurrogate rest)
          else if isHighSurrogate unit then
            match rest with
            | 0x5C :: 0x75 :: a :: b :: c :: d :: rest =>
                match hexUnit? a b c d with
                | none => .error (.behind .invalidEscape rest)
                | some low =>
                    if isLowSurrogate low then
                      scanString
                        ((Utf8.encodeChar (joinSurrogates unit low)).reverse ++ read) rest
                    else .error (.behind .loneSurrogate rest)
            | 0x5C :: 0x75 :: _ => .error (.behind .endInString [])
            | 0x5C :: _ :: rest => .error (.behind .unfinishedSurrogate rest)
            | [0x5C] => .error (.behind .endInString [])
            | _ :: rest => .error (.behind .unfinishedSurrogate rest)
            | [] => .error (.behind .endInString [])
          else scanString ((Utf8.encodeChar (Char.ofNat unit)).reverse ++ read) rest
  | 0x5C :: 0x75 :: _ => .error (.behind .endInString [])
  | 0x5C :: b :: rest =>
      match simpleEscape? b with
      | none => .error (.behind .invalidEscape rest)
      | some b => scanString (b :: read) rest
  | [0x5C] => .error (.behind .endInString [])
  | b :: rest =>
      if b < 0x20 then .error (.behind .controlCharacter rest)
      else scanString (b :: read) rest

/-- The rest of a string after its opening quote. Whether it is UTF-8 is known only at its end,
and the fault is then at the first bad byte. -/
def readString (bytes : Bytes) : Except Fault (String × Bytes) := do
  let (raw, rest) ← scanString [] bytes
  match Utf8.scan raw with
  | (text, []) => .ok (String.ofList text, rest)
  | (_, bad) => .error ⟨.invalidCodePoint, some (rest.length + bad.length)⟩

/-! Numbers -/

def isDigit (b : UInt8) : Bool := 0x30 ≤ b && b ≤ 0x39

def digitValue (b : UInt8) : Nat := b.toNat - 0x30

def maxWord : Nat := 18446744073709551615

/-- Appends digits to a significand until one of them would take it past 64 bits. The second
number says how many digits were not taken. -/
def absorb (significand : Nat) : Bytes → Nat × Nat
  | [] => (significand, 0)
  | d :: digits =>
      let next := significand * 10 + digitValue d
      if next ≤ maxWord then absorb next digits else (significand, digits.length + 1)

/-- Multiplies or divides once by the power of ten, each step rounded. A power too small for one
division is divided away 308 places at a time. -/
def scaleBy? (x : Decimal.Binary64) (exponent : Int) : Option Decimal.Binary64 :=
  if exponent.natAbs ≤ 308 then do
    let power ← Decimal.Binary64.ofDecimal? 1 exponent.natAbs
    if 0 ≤ exponent then x.mul? power else x.div? power
  else if x.isZero then some x
  else if 0 ≤ exponent then none
  else do
    let power ← Decimal.Binary64.ofDecimal? 1 308
    let y ← x.div? power
    scaleBy? y (exponent + 308)
termination_by (-exponent).toNat
decreasing_by omega

def floatOf (negative : Bool) (significand : Nat) (exponent : Int) (rest : Bytes) :
    Result Number :=
  match Decimal.Binary64.ofNat? significand >>= (scaleBy? · exponent) with
  | some x => .ok (.float negative x, rest)
  | none => .error (.behind .numberOutOfRange rest)

/-- The digits of an exponent, or `none` with what follows the digit that is one too many. -/
def readExponentDigits (read : Nat) : Bytes → Option Nat × Bytes
  | [] => (some read, [])
  | b :: rest =>
      if isDigit b then
        let next := read * 10 + digitValue b
        if next ≤ 2147483647 then readExponentDigits next rest else (none, rest)
      else (some read, b :: rest)

def readSign : Bytes → Bool × Bytes
  | 0x2B :: rest => (false, rest)
  | 0x2D :: rest => (true, rest)
  | bytes => (false, bytes)

/-- An exponent after its `e`. One that is too large is harmless if it is negative or if the
number is zero anyway. -/
def readExponent (negative : Bool) (significand : Nat) (exponent : Int) (bytes : Bytes) :
    Result Number :=
  match readSign bytes with
  | (_, []) => .error (.behind .endInValue [])
  | (down, b :: rest) =>
      if isDigit b then
        match readExponentDigits 0 (b :: rest) with
        | (some e, rest) =>
            floatOf negative significand (if down then exponent - e else exponent + e) rest
        | (none, rest) =>
            if significand ≠ 0 ∧ ¬ down then .error (.behind .numberOutOfRange rest)
            else .ok (.float negative .zero, rest.dropWhile isDigit)
      else .error (.behind .invalidNumber rest)

def readFraction (negative : Bool) (significand : Nat) (exponent : Int) (bytes : Bytes) :
    Result Number :=
  match bytes.span isDigit with
  | ([], []) => .error (.ahead .endInValue [])
  | ([], rest) => .error (.ahead .invalidNumber rest)
  | (digits, rest) =>
      let (significand, dropped) := absorb significand digits
      let exponent := exponent - (digits.length - dropped : Nat)
      match rest with
      | 0x65 :: rest => readExponent negative significand exponent rest
      | 0x45 :: rest => readExponent negative significand exponent rest
      | rest => floatOf negative significand exponent rest

/-- Negative integers go down to `-2 ^ 63`, and zero is never negative among the integers. -/
def integerOf (negative : Bool) (significand : Nat) (rest : Bytes) : Result Number :=
  if !negative then .ok (.integer significand, rest)
  else if 0 < significand ∧ significand ≤ 9223372036854775808 then
    .ok (.integer (-significand), rest)
  else floatOf true significand 0 rest

def readAfterInteger (negative : Bool) (significand dropped : Nat) : Bytes → Result Number
  | 0x2E :: rest => readFraction negative significand dropped rest
  | 0x65 :: rest => readExponent negative significand dropped rest
  | 0x45 :: rest => readExponent negative significand dropped rest
  | rest =>
      if dropped = 0 then integerOf negative significand rest
      else floatOf negative significand dropped rest

def readNumber (negative : Bool) : Bytes → Result Number
  | [] => .error (.behind .endInValue [])
  | 0x30 :: rest =>
      match rest with
      | [] => readAfterInteger negative 0 0 []
      | b :: after =>
          if isDigit b then .error (.ahead .invalidNumber (b :: after))
          else readAfterInteger negative 0 0 (b :: after)
  | b :: rest =>
      if isDigit b then
        let (digits, rest) := (b :: rest).span isDigit
        let (significand, dropped) := absorb 0 digits
        readAfterInteger negative significand dropped rest
      else .error (.behind .invalidNumber rest)

end Heartbeat.Json
