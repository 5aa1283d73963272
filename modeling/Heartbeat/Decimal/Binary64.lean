/-!
Finite binary64 magnitudes in exact arithmetic. `round?` takes a fraction to the nearest one, an
exact half to the even mantissa, and gives `none` where the nearest is infinite.
-/

namespace Heartbeat.Decimal

/-- The value is `mantissa * 2 ^ exponent`. -/
structure Binary64 where
  mantissa : Nat
  exponent : Int
deriving DecidableEq

namespace Binary64

def zero : Binary64 := ⟨0, -1074⟩

def numerator (x : Binary64) : Nat := x.mantissa <<< x.exponent.toNat

def denominator (x : Binary64) : Nat := 1 <<< (-x.exponent).toNat

def isZero (x : Binary64) : Bool := x.mantissa == 0

end Binary64

def divNearestEven (n d : Nat) : Nat :=
  let low := n / d
  let twice := 2 * (n % d)
  if twice < d then low
  else if d < twice then low + 1
  else low + low % 2

/-- The greatest `e` with `2 ^ e ≤ n / d`. -/
def floorLog2 (n d : Nat) : Int :=
  let e : Int := (n.log2 : Int) - d.log2
  if n <<< (-e).toNat < d <<< e.toNat then e - 1 else e

namespace Binary64

/-- Subnormal numbers share the exponent of the smallest normal ones. -/
def round? (n d : Nat) : Option Binary64 :=
  if n = 0 then some zero
  else
    let q := max (floorLog2 n d - 52) (-1074)
    let m := divNearestEven (n <<< (-q).toNat) (d <<< q.toNat)
    let rounded : Binary64 := if m = 1 <<< 53 then ⟨1 <<< 52, q + 1⟩ else ⟨m, q⟩
    if rounded.exponent ≤ 971 then some rounded else none

def mul? (x y : Binary64) : Option Binary64 :=
  round? (x.numerator * y.numerator) (x.denominator * y.denominator)

def div? (x y : Binary64) : Option Binary64 :=
  round? (x.numerator * y.denominator) (x.denominator * y.numerator)

def ofNat? (n : Nat) : Option Binary64 :=
  round? n 1

def ofDecimal? (digits : Nat) (exponent : Int) : Option Binary64 :=
  round? (digits * Nat.pow 10 exponent.toNat) (Nat.pow 10 (-exponent).toNat)

end Binary64

example : Binary64.ofNat? 1 = some ⟨1 <<< 52, -52⟩ := by decide +kernel

example : Binary64.ofDecimal? 5 (-324) = some ⟨1, -1074⟩ := by decide +kernel

example : Binary64.ofDecimal? 1 309 = none := by decide +kernel

end Heartbeat.Decimal
