import Heartbeat.Json.Value
import Heartbeat.Text.Utf8

/-!
The compact text of a value: no blanks, members in their order, and nothing escaped in a string
but the quote, the backslash and the control characters.
-/

namespace Heartbeat.Json

/-- A float is written without an exponent from `0.00001` up to below `1e+16`. -/
def floatLayout : Decimal.Layout := ⟨-5, 15⟩

def floatText (negative : Bool) (size : Decimal.Binary64) : List Char :=
  (if negative then ['-'] else []) ++ floatLayout.write size.shortest

def integerText (n : Int) : List Char :=
  (if n < 0 then ['-'] else []) ++ Nat.toDigits 10 n.natAbs

def Number.text : Number → List Char
  | .integer n => integerText n
  | .float negative size => floatText negative size

def asciiBytes (text : List Char) : Bytes :=
  text.map fun c => c.toNat.toUInt8

def hexLetter (n : Nat) : UInt8 :=
  if n < 10 then (0x30 + n).toUInt8 else (0x57 + n).toUInt8

def escapeByte (b : UInt8) : Bytes :=
  match b with
  | 0x22 => [0x5C, 0x22]
  | 0x5C => [0x5C, 0x5C]
  | 0x08 => [0x5C, 0x62]
  | 0x09 => [0x5C, 0x74]
  | 0x0A => [0x5C, 0x6E]
  | 0x0C => [0x5C, 0x66]
  | 0x0D => [0x5C, 0x72]
  | b =>
      if b < 0x20 then
        [0x5C, 0x75, 0x30, 0x30, hexLetter (b.toNat / 16), hexLetter (b.toNat % 16)]
      else [b]

def renderString (text : String) : Bytes :=
  0x22 :: (Utf8.encode text).flatMap escapeByte ++ [0x22]

def wordNull : Bytes := [0x6E, 0x75, 0x6C, 0x6C]

def wordTrue : Bytes := [0x74, 0x72, 0x75, 0x65]

def wordFalse : Bytes := [0x66, 0x61, 0x6C, 0x73, 0x65]

mutual

def Value.render : Value → Bytes
  | .null => wordNull
  | .boolean true => wordTrue
  | .boolean false => wordFalse
  | .number n => asciiBytes n.text
  | .string text => renderString text
  | .array items => 0x5B :: renderItems items ++ [0x5D]
  | .object members => 0x7B :: renderMembers members ++ [0x7D]

def renderItems : List Value → Bytes
  | [] => []
  | [item] => item.render
  | item :: items => item.render ++ 0x2C :: renderItems items

def renderMembers : List (String × Value) → Bytes
  | [] => []
  | [(name, value)] => renderString name ++ 0x3A :: value.render
  | (name, value) :: members =>
      renderString name ++ 0x3A :: value.render ++ 0x2C :: renderMembers members

end

end Heartbeat.Json
