import Heartbeat.Toml.Scanner

/-!
Quoting text for TOML. The plainest form in which the text needs no escapes is taken: double
quotes, single quotes, and both again in threes for text of several lines.
-/

namespace Heartbeat.Toml

/-- The length of the longest row of one character. -/
def longestRow (c : Char) (text : List Char) : Nat :=
  (text.foldl (fun (row, longest) d =>
    let row := if d = c then row + 1 else 0
    (row, max longest row)) (0, 0)).2

def isControl (c : Char) : Bool :=
  !isPlain c && c ≠ '\n'

def paddedHex (n : Nat) : List Char :=
  let digits := (Nat.toDigits 16 n).map Char.toUpper
  List.replicate (4 - digits.length) '0' ++ digits

def escapeChar (c : Char) : List Char :=
  match c with
  | '\x08' => ['\\', 'b']
  | '\t' => ['\\', 't']
  | '\n' => ['\\', 'n']
  | '\x0C' => ['\\', 'f']
  | '\r' => ['\\', 'r']
  | '"' => ['\\', '"']
  | '\\' => ['\\', '\\']
  | c => if isControl c then '\\' :: 'u' :: paddedHex c.toNat else [c]

/-- Escapes text between three double quotes, where up to `plain` more quotes may stand in a row. -/
def escapeLines (plain : Nat) : List Char → List Char
  | [] => []
  | '\n' :: text => '\n' :: escapeLines 2 text
  | '"' :: text =>
      match plain with
      | 0 => '\\' :: '"' :: escapeLines 2 text
      | plain + 1 => '"' :: escapeLines plain text
  | c :: text => escapeChar c ++ escapeLines 2 text

inductive Quoting where
  | basic
  | literal
  | multilineBasic
  | multilineLiteral
deriving DecidableEq

def Quoting.choose (text : List Char) : Quoting :=
  let lines := text.contains '\n'
  let control := text.any isControl
  let slash := text.contains '\\'
  let double := longestRow '"' text
  let single := longestRow '\'' text
  if !control && !slash && double = 0 && !lines then .basic
  else if !control && single = 0 && !lines then .literal
  else if !control && !slash && double ≤ 2 then .multilineBasic
  else if !control && single ≤ 2 then .multilineLiteral
  else if lines then .multilineBasic
  else .basic

/-- Text of several lines starts on a line of its own. -/
def Quoting.write (quoting : Quoting) (text : List Char) : List Char :=
  let start := if text.contains '\n' then ['\n'] else []
  match quoting with
  | .basic => '"' :: text.flatMap escapeChar ++ ['"']
  | .literal => '\'' :: text ++ ['\'']
  | .multilineBasic => '"' :: '"' :: '"' :: start ++ escapeLines 2 text ++ ['"', '"', '"']
  | .multilineLiteral => '\'' :: '\'' :: '\'' :: start ++ text ++ ['\'', '\'', '\'']

def quoted (text : String) : String :=
  String.ofList ((Quoting.choose text.toList).write text.toList)

end Heartbeat.Toml
