import Heartbeat.Decimal.Binary64

/-!
The fewest decimal digits that read back as a given binary64 number, and the texts made of them.
-/

namespace Heartbeat.Decimal

/-- The number `digits * 10 ^ exponent`. -/
structure Scaled where
  digits : Nat
  exponent : Int
deriving DecidableEq

namespace Binary64

/-- The reals that round to a number, as a closed or open interval of quarters of its last bit. -/
structure Reach where
  low : Nat
  value : Nat
  high : Nat
  closed : Bool
  exponent : Int

/-- Below a power of two the next number is only half as far away as above it. -/
def reach (x : Binary64) : Reach where
  low := 4 * x.mantissa - if x.mantissa = 1 <<< 52 ∧ -1074 < x.exponent then 1 else 2
  value := 4 * x.mantissa
  high := 4 * x.mantissa + 2
  closed := x.mantissa % 2 = 0
  exponent := x.exponent - 2

def Reach.contains (r : Reach) (position : Nat) (unit : Nat) : Bool :=
  if r.closed then r.low * unit ≤ position && position ≤ r.high * unit
  else r.low * unit < position && position < r.high * unit

/-- The multiple of `10 ^ scale` in reach that is nearest to the value, a tie going to the even
multiple. Only the two around the value are in question. -/
def Reach.nearest? (r : Reach) (scale : Int) : Option Nat :=
  let unit := Nat.pow 10 (-scale).toNat <<< r.exponent.toNat
  let step := Nat.pow 10 scale.toNat <<< (-r.exponent).toNat
  let below := r.value * unit / step
  let above := below + 1
  match r.contains (below * step) unit, r.contains (above * step) unit with
  | false, false => none
  | true, false => some below
  | false, true => some above
  | true, true =>
      let fromBelow := r.value * unit - below * step
      let toAbove := above * step - r.value * unit
      if fromBelow < toAbove then some below
      else if toAbove < fromBelow then some above
      else some (below + below % 2)

/-- Seventeen digits always suffice, so the coarsest scale that hits is found in time. -/
def Reach.search (r : Reach) : Nat → Int → Scaled
  | 0, scale => ⟨r.value, scale⟩
  | fuel + 1, scale =>
      match r.nearest? scale with
      | some digits => ⟨digits, scale⟩
      | none => r.search fuel (scale - 1)

/-- A scale above every digit of the number: `30103 / 100000` is just more than `log 2`. -/
def topScale (x : Binary64) : Int :=
  (floorLog2 x.numerator x.denominator * 30103).fdiv 100000 + 1

def shortest (x : Binary64) : Scaled :=
  if x.isZero then ⟨0, 0⟩ else x.reach.search 40 x.topScale

end Binary64

/-- Which powers of ten of the leading digit are written without an exponent. -/
structure Layout where
  least : Int
  greatest : Int

def zeros (n : Nat) : List Char := List.replicate n '0'

/-- Digits with a point `point` places after their start, and at least one digit on each side. -/
def positional (digits : List Char) (point : Int) : List Char :=
  if point ≤ 0 then ['0', '.'] ++ zeros (-point).toNat ++ digits
  else
    let whole := point.toNat
    if digits.length ≤ whole then digits ++ zeros (whole - digits.length) ++ ['.', '0']
    else digits.take whole ++ ['.'] ++ digits.drop whole

/-- One digit before the point, no point if there is only one digit, and a signed exponent. -/
def scientific (digits : List Char) (exponent : Int) : List Char :=
  digits.take 1
    ++ (if digits.length ≤ 1 then [] else '.' :: digits.drop 1)
    ++ ['e', if exponent < 0 then '-' else '+']
    ++ Nat.toDigits 10 exponent.natAbs

def Layout.write (layout : Layout) (number : Scaled) : List Char :=
  let digits := Nat.toDigits 10 number.digits
  let leading := number.exponent + digits.length - 1
  if number.digits = 0 then ['0', '.', '0']
  else if layout.least ≤ leading ∧ leading ≤ layout.greatest then
    positional digits (leading + 1)
  else scientific digits leading

example : (Layout.mk (-5) 15).write ⟨15, 19⟩ = "1.5e+20".toList := by decide +kernel

example : (Layout.mk (-5) 15).write ⟨1, -5⟩ = "0.00001".toList := by decide +kernel

example : (Binary64.mk 1 (-1074)).shortest = ⟨5, -324⟩ := by decide +kernel

end Heartbeat.Decimal
