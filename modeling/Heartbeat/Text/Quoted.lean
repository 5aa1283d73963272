import Heartbeat.Text.Printable

/-!
Text between double quotes, as diagnostics show it: quotes, backslashes and the usual blanks are
written with a backslash, and a character that would not show is written as its code point.
-/

namespace Heartbeat.Text

def codePointEscape (c : Char) : List Char :=
  ['\\', 'u', '{'] ++ Nat.toDigits 16 c.toNat ++ ['}']

def quotedChar (c : Char) : List Char :=
  match c with
  | '\x00' => ['\\', '0']
  | '\t' => ['\\', 't']
  | '\r' => ['\\', 'r']
  | '\n' => ['\\', 'n']
  | '\\' => ['\\', '\\']
  | '"' => ['\\', '"']
  | c => if isPrintable c then [c] else codePointEscape c

def quoted (text : String) : String :=
  String.ofList ('"' :: text.toList.flatMap quotedChar ++ ['"'])

example : quoted "a\"b\n" = "\"a\\\"b\\n\"" := by decide +kernel

example : quoted "\x01" = "\"\\u\x7b1\x7d\"" := by decide +kernel

end Heartbeat.Text
