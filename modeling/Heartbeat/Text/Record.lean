import Heartbeat.Text.Quoted

/-!
One-line descriptions of records for people: the name of the record, and its fields in braces.
-/

namespace Heartbeat.Text

structure Field where
  name : String
  value : String

def Field.text (field : Field) : String :=
  field.name ++ ": " ++ field.value

/-- Two dots stand for fields that are not shown. -/
def record (name : String) (fields : List Field) (complete : Bool := true) : String :=
  let shown := fields.map Field.text ++ (if complete then [] else [".."])
  name ++ " \x7b " ++ ", ".intercalate shown ++ " \x7d"

/-- A duration given in milliseconds, in the largest unit that is not too large for it. -/
def duration (ms : Nat) : String :=
  if ms = 0 then "0ns"
  else if ms < 1000 then toString ms ++ "ms"
  else
    let digits := (Nat.toDigits 10 (ms % 1000 + 1000)).tail
    let decimals := (digits.reverse.dropWhile (· = '0')).reverse
    toString (ms / 1000)
      ++ (if decimals = [] then "" else "." ++ String.ofList decimals) ++ "s"

example : duration 61001 = "61.001s" := by decide +kernel

example : duration 1500 = "1.5s" := by decide +kernel

end Heartbeat.Text
