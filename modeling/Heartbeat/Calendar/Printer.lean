import Heartbeat.Calendar.Instant

/-!
The written forms of an instant. Both show the same fields; they differ in what stands between
the date and the time and behind them.
-/

namespace Heartbeat.Calendar

def padded (width n : Nat) : List Char :=
  let digits := Nat.toDigits 10 n
  List.replicate (width - digits.length) '0' ++ digits

/-- Years outside `0000` to `9999` carry a sign. -/
def yearText (year : Int) : List Char :=
  if 0 ≤ year ∧ year ≤ 9999 then padded 4 year.toNat
  else (if year < 0 then '-' else '+') :: padded 4 year.natAbs

def Date.text (date : Date) : List Char :=
  yearText date.year ++ '-' :: padded 2 date.month ++ '-' :: padded 2 date.day

/-- Thousandths, millionths or billionths, whichever are enough. -/
def fractionText (nano : Nat) : List Char :=
  if nano = 0 then []
  else if nano % 1000000 = 0 then '.' :: padded 3 (nano / 1000000)
  else if nano % 1000 = 0 then '.' :: padded 6 (nano / 1000)
  else '.' :: padded 9 nano

def Instant.timeText (t : Instant) : List Char :=
  let leap := t.nano / 1000000000
  padded 2 (t.second / 3600) ++ ':' :: padded 2 (t.second / 60 % 60)
    ++ ':' :: padded 2 (t.second % 60 + leap) ++ fractionText (t.nano % 1000000000)

def Instant.rfc3339 (t : Instant) : List Char :=
  t.date.text ++ 'T' :: t.timeText ++ ['Z']

def Instant.plain (t : Instant) : List Char :=
  t.date.text ++ ' ' :: t.timeText ++ [' ', 'U', 'T', 'C']

example : (Instant.mk 19844 43200 0).rfc3339 = "2024-05-01T12:00:00Z".toList := by
  decide +kernel

end Heartbeat.Calendar
