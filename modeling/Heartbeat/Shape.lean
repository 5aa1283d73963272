import Heartbeat.Text.Quoted

/-!
What a typed reader says about a value of the wrong kind. Both file formats of the library use
these words.
-/

namespace Heartbeat

/-- A value as it is named in a complaint. -/
inductive Found where
  | null
  | boolean (value : Bool)
  | integer (value : Int)
  | float (text : String)
  | string (text : String)
  | sequence
  | map
deriving DecidableEq

def Found.text : Found → String
  | .null => "null"
  | .boolean value => "boolean `" ++ (if value then "true" else "false") ++ "`"
  | .integer value => "integer `" ++ toString value ++ "`"
  | .float text => "floating point `" ++ text ++ "`"
  | .string text => "string " ++ Text.quoted text
  | .sequence => "sequence"
  | .map => "map"

inductive Shape where
  | unit
  | boolean
  | string
  | path
  | instant
  | unsigned (name : String)
  | record (name : String)
deriving DecidableEq

def Shape.text : Shape → String
  | .unit => "unit"
  | .boolean => "a boolean"
  | .string => "a string"
  | .path => "path string"
  | .instant => "an RFC 3339 formatted date and time string"
  | .unsigned name => name
  | .record name => "struct " ++ name

inductive Mismatch where
  | kind (found : Found) (expected : Shape)
  | range (found : Found) (expected : Shape)
deriving DecidableEq

def Mismatch.text : Mismatch → String
  | .kind found expected => "invalid type: " ++ found.text ++ ", expected " ++ expected.text
  | .range found expected => "invalid value: " ++ found.text ++ ", expected " ++ expected.text

def boundedNat (bound : Nat) (expected : Shape) (n : Int) : Except Mismatch Nat :=
  if 0 ≤ n ∧ n < bound then .ok n.toNat else .error (.range (.integer n) expected)

end Heartbeat
