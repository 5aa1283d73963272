import Heartbeat.Decimal.Shortest
import Heartbeat.Shape

/-!
The values of TOML documents. The members of a table stand in the order in which they came.
-/

namespace Heartbeat.Toml

inductive Real where
  | finite (negative : Bool) (size : Decimal.Binary64)
  | infinite (negative : Bool)
  | notANumber
deriving DecidableEq

/-- How a table came about decides who may still add to it: a header of its own, the header of a
table within it, dotted keys, or braces. -/
inductive TableKind where
  | headed
  | implied
  | dotted
  | inline
deriving DecidableEq

/-- Of dates and times only the fact is kept that there is one. -/
inductive Value where
  | string (text : String)
  | integer (n : Int)
  | real (x : Real)
  | boolean (value : Bool)
  | moment
  | array (items : List Value)
  | table (kind : TableKind) (members : List (String × Value))
  | tables (items : List (List (String × Value)))

abbrev Members := List (String × Value)

/-- Numbers are named in full, without an exponent. -/
def realLayout : Decimal.Layout := ⟨-400, 400⟩

def Real.text : Real → String
  | .finite negative size =>
      String.ofList ((if negative then ['-'] else []) ++ realLayout.write size.shortest)
  | .infinite negative => if negative then "-inf" else "inf"
  | .notANumber => "NaN"

def Value.found : Value → Found
  | .string text => .string text
  | .integer n => .integer n
  | .real x => .float x.text
  | .boolean value => .boolean value
  | .moment => .map
  | .array _ => .sequence
  | .table .. => .map
  | .tables _ => .sequence

/-! Members by name -/

def member? (name : String) : Members → Option Value
  | [] => none
  | (other, value) :: members => if other = name then some value else member? name members

def replaceMember (name : String) (value : Value) : Members → Members
  | [] => []
  | (other, old) :: members =>
      if other = name then (name, value) :: members
      else (other, old) :: replaceMember name value members

def eraseMember (name : String) : Members → Members
  | [] => []
  | (other, value) :: members =>
      if other = name then members else (other, value) :: eraseMember name members

end Heartbeat.Toml
