import Heartbeat.Toml.Quoted
import Heartbeat.Toml.Value

/-!
Numbers of TOML. Integers have 64 bits with a sign; floats are rounded to the nearest binary64
number, and only negative ones may be too large for that.
-/

namespace Heartbeat.Toml

/-- Digits after the first one. An underscore may stand between any two. -/
def moreDigits (isDigit : Char → Bool) : List Char → Option (List Char × List Char)
  | '_' :: c :: rest => if isDigit c then prepend c (moreDigits isDigit rest) else none
  | c :: rest =>
      if isDigit c then prepend c (moreDigits isDigit rest)
      else if c = '_' then none
      else some ([], c :: rest)
  | [] => some ([], [])

def readDigits (isDigit : Char → Bool) : List Char → Option (List Char × List Char)
  | c :: rest => if isDigit c then prepend c (moreDigits isDigit rest) else none
  | [] => none

/-- The whole part of a decimal number does not start with a zero, unless it is one. -/
def readWhole : List Char → Option (List Char × List Char)
  | '0' :: rest => some (['0'], rest)
  | text => readDigits Char.isDigit text

def decimalNumber (digits : List Char) : Nat :=
  digits.foldl (fun n c => n * 10 + (c.toNat - 48)) 0

def signedNumber (negative : Bool) (n : Nat) : Int :=
  if negative then -n else n

def integer? (n : Int) : Option Value :=
  if -9223372036854775808 ≤ n ∧ n < 9223372036854775808 then some (.integer n) else none

/-- The number `digits * 10 ^ exponent`. Exponents beyond all floats are not multiplied out. -/
def Real.ofDecimal? (negative : Bool) (digits : List Char) (exponent : Int) : Option Real :=
  let n := decimalNumber digits
  let size :=
    if n = 0 ∨ exponent + digits.length < -400 then some Decimal.Binary64.zero
    else if 400 < exponent then none
    else Decimal.Binary64.ofDecimal? n exponent
  match size with
  | some size => some (.finite negative size)
  | none => if negative then some (.infinite true) else none

def readExponent (text : List Char) : Option (Int × List Char) :=
  let (negative, text) :=
    match text with
    | '-' :: rest => (true, rest)
    | '+' :: rest => (false, rest)
    | text => (false, text)
  (readDigits Char.isDigit text).map fun (digits, rest) =>
    (signedNumber negative (decimalNumber digits), rest)

def isExponentMark (c : Char) : Bool :=
  c = 'e' || c = 'E'

/-- A float from behind its whole part and its fraction, which may be empty. -/
def readReal (negative : Bool) (whole fraction text : List Char) :
    Option (Value × List Char) := do
  let (exponent, rest) ←
    match text with
    | c :: rest => if isExponentMark c then readExponent rest else some (0, text)
    | [] => some (0, [])
  let x ← Real.ofDecimal? negative (whole ++ fraction) (exponent - fraction.length)
  pure (.real x, rest)

def readDecimal (negative : Bool) (text : List Char) : Option (Value × List Char) := do
  let (whole, rest) ← readWhole text
  match rest with
  | '.' :: rest =>
      let (fraction, rest) ← readDigits Char.isDigit rest
      readReal negative whole fraction rest
  | c :: _ =>
      if isExponentMark c then readReal negative whole [] rest
      else (integer? (signedNumber negative (decimalNumber whole))).map (·, rest)
  | [] => (integer? (signedNumber negative (decimalNumber whole))).map (·, [])

def radixNumber (radix : Nat) (digits : List Char) : Nat :=
  digits.foldl (fun n c => n * radix + (hexDigit? c).getD 0) 0

def isRadixDigit (radix : Nat) (c : Char) : Bool :=
  (hexDigit? c).any (· < radix)

def readRadix (radix : Nat) (text : List Char) : Option (Value × List Char) := do
  let (digits, rest) ← readDigits (isRadixDigit radix) text
  let n ← integer? (radixNumber radix digits)
  pure (n, rest)

def readMagnitude (negative : Bool) : List Char → Option (Value × List Char)
  | 'i' :: 'n' :: 'f' :: rest => some (.real (.infinite negative), rest)
  | 'n' :: 'a' :: 'n' :: rest => some (.real .notANumber, rest)
  | text => readDecimal negative text

/-- Only numbers without a sign may be written in another base than ten. -/
def readNumber : List Char → Option (Value × List Char)
  | '0' :: 'x' :: rest => readRadix 16 rest
  | '0' :: 'o' :: rest => readRadix 8 rest
  | '0' :: 'b' :: rest => readRadix 2 rest
  | '+' :: rest => readMagnitude false rest
  | '-' :: rest => readMagnitude true rest
  | text => readMagnitude false text

end Heartbeat.Toml
