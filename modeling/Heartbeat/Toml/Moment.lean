import Heartbeat.Calendar.Instant

/-!
Dates and times of TOML: a date, a time, or both with or without an offset. The readers give what
follows a moment.
-/

namespace Heartbeat.Toml

/-- A number of two digits from `least` to `greatest`. -/
def readPair (least greatest : Nat) : List Char → Option (Nat × List Char)
  | a :: b :: rest =>
      let n := (a.toNat - 48) * 10 + (b.toNat - 48)
      if a.isDigit && b.isDigit && decide (least ≤ n ∧ n ≤ greatest) then some (n, rest)
      else none
  | _ => none

def readMark (mark : Char) : List Char → Option (List Char)
  | c :: rest => if c = mark then some rest else none
  | [] => none

def skipFraction : List Char → List Char
  | '.' :: c :: rest => if c.isDigit then rest.dropWhile Char.isDigit else '.' :: c :: rest
  | rest => rest

def skipTime (text : List Char) : Option (List Char) := do
  let (_, rest) ← readPair 0 23 text
  let rest ← readMark ':' rest
  let (_, rest) ← readPair 0 59 rest
  let rest ← readMark ':' rest
  let (_, rest) ← readPair 0 60 rest
  pure (skipFraction rest)

def skipOffset (text : List Char) : Option (List Char) :=
  match text with
  | c :: rest =>
      if c = 'Z' ∨ c = 'z' then some rest
      else if c = '+' ∨ c = '-' then do
        let (_, rest) ← readPair 0 23 rest
        let rest ← readMark ':' rest
        let (_, rest) ← readPair 0 59 rest
        pure rest
      else some text
  | [] => some []

/-- Two digits and a colon can only be the start of a time. -/
def startsTime : List Char → Bool
  | a :: b :: ':' :: _ => a.isDigit && b.isDigit
  | _ => false

/-- Four digits and a hyphen can only be the start of a date. -/
def startsDate : List Char → Bool
  | a :: b :: c :: d :: '-' :: _ => a.isDigit && b.isDigit && c.isDigit && d.isDigit
  | _ => false

def skipTimeOfDate (text : List Char) : Option (List Char) :=
  match text with
  | c :: rest =>
      if (c = 'T' ∨ c = 't' ∨ c = ' ') ∧ startsTime rest then
        (skipTime rest).bind skipOffset
      else some text
  | [] => some []

def skipDate (text : List Char) : Option (List Char) := do
  let (century, rest) ← readPair 0 99 text
  let (year, rest) ← readPair 0 99 rest
  let rest ← readMark '-' rest
  let (month, rest) ← readPair 1 12 rest
  let rest ← readMark '-' rest
  let (day, rest) ← readPair 1 31 rest
  if day ≤ Calendar.Date.daysInMonth (century * 100 + year : Nat) month then skipTimeOfDate rest
  else none

/-- What follows the moment that a text starts with. Text that starts with none has no answer. -/
def skipMoment? (text : List Char) : Option (Option (List Char)) :=
  if startsDate text then some (skipDate text)
  else if startsTime text then some (skipTime text)
  else none

end Heartbeat.Toml
