import Heartbeat.Calendar.Instant
import Heartbeat.Text.Blank

/-!
A lenient reader of RFC 3339. It allows blanks before every number and around the separators of
the date and the time, short numbers, signed years of any length, and several forms of offset.
-/

namespace Heartbeat.Calendar

inductive Fault where
  | tooShort
  | invalid
  | outOfRange
  | tooLong
  | impossible
deriving DecidableEq

def Fault.text : Fault → String
  | .tooShort => "premature end of input"
  | .invalid => "input contains invalid characters"
  | .outOfRange => "input is out of range"
  | .tooLong => "trailing input"
  | .impossible => "no possible date and time matching input"

abbrev Result (α : Type) := Except Fault (α × List Char)

def digitsValue (digits : List Char) : Nat :=
  digits.foldl (fun n c => n * 10 + (c.toNat - '0'.toNat)) 0

/-- At least one digit, and at most `width` if that is given. -/
def readNumber (width : Option Nat) : List Char → Result Nat
  | [] => .error .tooShort
  | c :: text =>
      if !c.isDigit then .error .invalid
      else
        let digits := (c :: text).takeWhile Char.isDigit
        let digits := match width with
          | some width => digits.take width
          | none => digits
        .ok (digitsValue digits, (c :: text).drop digits.length)

def readField (least greatest : Nat) (text : List Char) : Result Nat :=
  match readNumber (some 2) (Text.trimStart text) with
  | .error fault => .error fault
  | .ok (n, rest) => if least ≤ n ∧ n ≤ greatest then .ok (n, rest) else .error .outOfRange

def inYearRange (year : Int) : Bool := -2147483648 ≤ year && year ≤ 2147483647

/-- The digits of a year after its sign. -/
def readSignedYear (negative : Bool) (text : List Char) : Result Int :=
  match readNumber none text with
  | .error fault => .error fault
  | .ok (n, rest) =>
      let year : Int := if negative then -n else n
      if inYearRange year then .ok (year, rest) else .error .outOfRange

/-- Four digits at most, unless a sign comes first. -/
def readYear (text : List Char) : Result Int :=
  match Text.trimStart text with
  | '-' :: rest => readSignedYear true rest
  | '+' :: rest => readSignedYear false rest
  | text => (readNumber (some 4) text).map fun (n, rest) => (n, rest)

def expectMark (mark : Char) (text : List Char) : Except Fault (List Char) :=
  match Text.trimStart text with
  | [] => .error .tooShort
  | c :: rest => if c = mark then .ok rest else .error .invalid

def readDate (text : List Char) : Except Fault (Date × List Char) := do
  let (year, text) ← readYear text
  let text ← expectMark '-' text
  let (month, text) ← readField 1 12 text
  let text ← expectMark '-' text
  let (day, text) ← readField 1 31 text
  pure (⟨year, month, day⟩, text)

def expectSeparator : List Char → Except Fault (List Char)
  | [] => .error .tooShort
  | c :: rest => if c = 'T' ∨ c = 't' ∨ c = ' ' then .ok rest else .error .invalid

/-- Digits after the ninth say nothing. -/
def readFraction : List Char → Result Nat
  | '.' :: text =>
      match readNumber (some 9) text with
      | .error fault => .error fault
      | .ok (n, rest) =>
          .ok (n * Nat.pow 10 (9 - (text.length - rest.length)), rest.dropWhile Char.isDigit)
  | text => .ok (0, text)

/-- A second of the day and nanoseconds; second 60 is the one before it, a billion later. -/
def readTime (text : List Char) : Except Fault ((Nat × Nat) × List Char) := do
  let (hour, text) ← readField 0 23 text
  let text ← expectMark ':' text
  let (minute, text) ← readField 0 59 text
  let text ← expectMark ':' text
  let (second, text) ← readField 0 60 text
  let (nano, text) ← readFraction text
  let leap := second / 60
  pure ((hour * 3600 + minute * 60 + (second - leap), nano + leap * 1000000000), text)

/-- Two characters, or the fault of a text that is less than two bytes long. -/
def takePair : List Char → Except Fault (Char × Char × List Char)
  | [] => .error .tooShort
  | [c] => .error (if c.toNat < 0x80 then .tooShort else .invalid)
  | c :: d :: rest => .ok (c, d, rest)

def pairValue (c d : Char) : Nat := digitsValue [c, d]

def isColonOrBlank (c : Char) : Bool := c == ':' || Text.isBlank c

def readOffsetHours (text : List Char) : Except Fault (Nat × List Char) := do
  let (c, d, rest) ← takePair text
  if c.isDigit && d.isDigit then .ok (pairValue c d, rest) else .error .invalid

def readOffsetMinutes (text : List Char) : Except Fault (Nat × List Char) := do
  let (c, d, rest) ← takePair text
  if !(c.isDigit && d.isDigit) then .error .invalid
  else if c ≤ '5' then .ok (pairValue c d, rest)
  else .error .outOfRange

def isUniversal (text : List Char) : Bool :=
  (text.take 3).map Char.toUpper == ['U', 'T', 'C']

/-- Seconds east of Greenwich. -/
def readOffset (text : List Char) : Except Fault (Int × List Char) :=
  if isUniversal text then .ok (0, text.drop 3)
  else
    match text with
    | [] => .error .tooShort
    | 'Z' :: rest => .ok (0, rest)
    | 'z' :: rest => .ok (0, rest)
    | sign :: rest => do
        if sign ≠ '+' ∧ sign ≠ '-' ∧ sign ≠ '\u2212' then .error .invalid
        else
          let (hours, rest) ← readOffsetHours rest
          let (minutes, rest) ← readOffsetMinutes (rest.dropWhile isColonOrBlank)
          let seconds : Int := hours * 3600 + minutes * 60
          pure (if sign = '+' then seconds else -seconds, rest)

/-- The years that days can be counted in. -/
def leastYear : Int := -262143

def greatestYear : Int := 262142

def Date.exists (date : Date) : Bool :=
  leastYear ≤ date.year && date.year ≤ greatestYear
    && date.day ≤ Date.daysInMonth date.year date.month

/-- The instant of a local time so many seconds east. -/
def instantAt (date : Date) (second nano : Nat) (offset : Int) : Except Fault Instant :=
  if !date.exists then .error .outOfRange
  else if 86400 ≤ offset.natAbs then .error .outOfRange
  else
    let universal := (second : Int) - offset
    let t : Instant := ⟨date.number + universal.fdiv 86400, (universal.fmod 86400).toNat, nano⟩
    if (Date.mk leastYear 1 1).number ≤ t.day ∧ t.day ≤ (Date.mk greatestYear 12 31).number then
      .ok t
    else .error .impossible

def readInstant (text : String) : Except Fault Instant := do
  let (date, rest) ← readDate text.toList
  let rest ← expectSeparator rest
  let ((second, nano), rest) ← readTime rest
  let (offset, rest) ← readOffset (Text.trimStart rest)
  if Text.trimStart rest ≠ [] then .error .tooLong
  else instantAt date second nano offset

end Heartbeat.Calendar
