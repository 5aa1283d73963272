import Heartbeat.Toml.Scanner

/-!
Quoted text of TOML: with or without escapes, on one line or on several. Each reader starts behind
the opening quotes, and gives the text and what follows the closing ones.
-/

namespace Heartbeat.Toml

def hexDigit? (c : Char) : Option Nat :=
  if '0' ≤ c ∧ c ≤ '9' then some (c.toNat - 48)
  else if 'a' ≤ c ∧ c ≤ 'f' then some (c.toNat - 87)
  else if 'A' ≤ c ∧ c ≤ 'F' then some (c.toNat - 55)
  else none

def hexNumber? (digits : List Char) : Option Nat :=
  digits.foldlM (fun n c => (hexDigit? c).map (n * 16 + ·)) 0

def codePoint? (digits : List Char) : Option Char := do
  let n ← hexNumber? digits
  if n.isValidChar then some (Char.ofNat n) else none

def namedEscape? : Char → Option Char
  | 'b' => some '\x08'
  | 'f' => some '\x0C'
  | 'n' => some '\n'
  | 'r' => some '\r'
  | 't' => some '\t'
  | '"' => some '"'
  | '\\' => some '\\'
  | _ => none

/-- What an escape stands for, read from behind its backslash. -/
def escaped? : List Char → Option (Char × List Char)
  | 'u' :: a :: b :: c :: d :: rest => (codePoint? [a, b, c, d]).map (·, rest)
  | 'U' :: a :: b :: c :: d :: e :: f :: g :: h :: rest =>
      (codePoint? [a, b, c, d, e, f, g, h]).map (·, rest)
  | c :: rest => (namedEscape? c).map (·, rest)
  | [] => none

theorem length_lt_of_escaped? {text rest : List Char} {c : Char}
    (h : escaped? text = some (c, rest)) : rest.length < text.length := by
  unfold escaped? at h
  split at h <;> simp only [Option.map_eq_some_iff, Prod.mk.injEq, reduceCtorEq] at h
  all_goals
    obtain ⟨_, _, _, rfl⟩ := h
    simp only [List.length_cons]
    omega

def prepend (c : Char) (read : Option (List Char × List Char)) :
    Option (List Char × List Char) :=
  read.map fun (text, rest) => (c :: text, rest)

def basicBody (text : List Char) : Option (List Char × List Char) :=
  match text with
  | [] => none
  | '"' :: rest => some ([], rest)
  | '\\' :: rest =>
      match h : escaped? rest with
      | none => none
      | some (c, after) =>
          have := length_lt_of_escaped? h
          prepend c (basicBody after)
  | c :: rest => if isPlain c then prepend c (basicBody rest) else none
termination_by text.length
decreasing_by all_goals simp only [List.length_cons]; omega

/-- Up to two more quotes directly behind the closing three still belong to the text. -/
def closing (quote : Char) : List Char → List Char × List Char
  | a :: b :: rest =>
      if a ≠ quote then ([], a :: b :: rest)
      else if b ≠ quote then ([a], b :: rest)
      else ([a, b], rest)
  | [a] => if a = quote then ([a], []) else ([], [a])
  | [] => ([], [])

/-- A backslash at the end of a line joins it with the next line that is not blank. -/
def joinsLines (text : List Char) : Bool :=
  (newline? (skipBlanks text)).isSome

/-- Text in three double quotes. Blanks and ends of lines are skipped after a backslash that joins
lines. -/
def multilineBody (skipping : Bool) (text : List Char) : Option (List Char × List Char) :=
  match text with
  | [] => none
  | '"' :: '"' :: '"' :: rest => some (closing '"' rest)
  | '\n' :: rest =>
      if skipping then multilineBody true rest else prepend '\n' (multilineBody false rest)
  | '\r' :: '\n' :: rest =>
      if skipping then multilineBody true rest else prepend '\n' (multilineBody false rest)
  | '\\' :: rest =>
      if joinsLines rest then multilineBody true rest
      else
        match h : escaped? rest with
        | none => none
        | some (c, after) =>
            have := length_lt_of_escaped? h
            prepend c (multilineBody false after)
  | c :: rest =>
      if skipping && isBlank c then multilineBody true rest
      else if isPlain c then prepend c (multilineBody false rest)
      else none
termination_by text.length
decreasing_by all_goals simp only [List.length_cons]; omega

def literalBody : List Char → Option (List Char × List Char)
  | [] => none
  | c :: rest =>
      if c = '\'' then some ([], rest)
      else if isPlain c then prepend c (literalBody rest)
      else none

def multilineLiteralBody : List Char → Option (List Char × List Char)
  | [] => none
  | '\'' :: '\'' :: '\'' :: rest => some (closing '\'' rest)
  | '\n' :: rest => prepend '\n' (multilineLiteralBody rest)
  | '\r' :: '\n' :: rest => prepend '\n' (multilineLiteralBody rest)
  | c :: rest => if isPlain c then prepend c (multilineLiteralBody rest) else none

/-- The end of a line directly behind three opening quotes is not part of the text. -/
def dropNewline (text : List Char) : List Char :=
  (newline? text).getD text

def readQuoted : List Char → Option (List Char × List Char)
  | '"' :: '"' :: '"' :: rest => multilineBody false (dropNewline rest)
  | '"' :: rest => basicBody rest
  | '\'' :: '\'' :: '\'' :: rest => multilineLiteralBody (dropNewline rest)
  | '\'' :: rest => literalBody rest
  | _ => none

end Heartbeat.Toml
