import Heartbeat.Toml.Moment
import Heartbeat.Toml.Number
import Heartbeat.Toml.Table

/-!
Reading TOML documents. `parse` gives the table that a document stands for, or nothing.
-/

namespace Heartbeat.Toml

/-- Arrays and inline tables may be nested this deep, and dotted keys may have this many parts. -/
def maxDepth : Nat := 79

/-! Keys -/

def isBareKeyChar (c : Char) : Bool :=
  c.isAlphanum || c = '-' || c = '_'

def readKey : List Char → Option (String × List Char)
  | '"' :: rest => (basicBody rest).map fun (key, rest) => (String.ofList key, rest)
  | '\'' :: rest => (literalBody rest).map fun (key, rest) => (String.ofList key, rest)
  | text =>
      let key := text.takeWhile isBareKeyChar
      if key = [] then none else some (String.ofList key, text.dropWhile isBareKeyChar)

/-- A key of at most `limit` parts, with the blanks around it. -/
def readPath (limit : Nat) (text : List Char) : Option (Path × List Char) :=
  match limit with
  | 0 => none
  | limit + 1 =>
      match readKey (skipBlanks text) with
      | none => none
      | some (key, rest) =>
          match skipBlanks rest with
          | '.' :: rest =>
              (readPath limit rest).map fun (path, rest) =>
                (⟨key :: path.parents, path.name⟩, rest)
          | rest => some (⟨[], key⟩, rest)

def readPair? (read : List Char → Option (Value × List Char)) (text : List Char) :
    Option (Pair × List Char) := do
  let (path, rest) ← readPath maxDepth text
  let rest ← readMark '=' rest
  let (value, rest) ← read (skipBlanks rest)
  pure (⟨path, value⟩, rest)

/-! Values -/

def readItems (read : List Char → Option (Value × List Char)) :
    Nat → List Char → Option (List Value × List Char)
  | 0, _ => none
  | fuel + 1, text =>
      match skipLines false text with
      | ']' :: rest => some ([], rest)
      | text => do
          let (item, rest) ← read text
          match skipLines false rest with
          | ',' :: rest =>
              let (items, rest) ← readItems read fuel rest
              pure (item :: items, rest)
          | ']' :: rest => pure ([item], rest)
          | _ => none

/-- The pairs of an inline table, up to its brace. No comma follows the last one. -/
def readPairs (read : List Char → Option (Value × List Char)) :
    Nat → List Char → Option (List Pair × List Char)
  | 0, _ => none
  | fuel + 1, text => do
      let (pair, rest) ← readPair? read text
      match skipBlanks rest with
      | ',' :: rest =>
          let (pairs, rest) ← readPairs read fuel rest
          pure (pair :: pairs, rest)
      | '}' :: rest => pure ([pair], rest)
      | _ => none

def readInlineTable (read : List Char → Option (Value × List Char)) (text : List Char) :
    Option (Value × List Char) :=
  match skipBlanks text with
  | '}' :: rest => some (.table .inline [], rest)
  | _ => do
      let (pairs, rest) ← readPairs read (text.length + 1) text
      let table ← inlineTable? pairs
      pure (table, rest)

def readScalar (text : List Char) : Option (Value × List Char) :=
  match text with
  | 't' :: 'r' :: 'u' :: 'e' :: rest => some (.boolean true, rest)
  | 'f' :: 'a' :: 'l' :: 's' :: 'e' :: rest => some (.boolean false, rest)
  | c :: _ =>
      if c = '"' ∨ c = '\'' then
        (readQuoted text).map fun (quoted, rest) => (.string (String.ofList quoted), rest)
      else
        match skipMoment? text with
        | some moment => moment.map (.moment, ·)
        | none => readNumber text
  | [] => none

def readValue : Nat → List Char → Option (Value × List Char)
  | 0, text => readScalar text
  | depth + 1, text =>
      match text with
      | '[' :: rest =>
          (readItems (readValue depth) (rest.length + 1) rest).map fun (items, rest) =>
            (.array items, rest)
      | '{' :: rest => readInlineTable (readValue depth) rest
      | text => readScalar text

/-! Lines -/

inductive Line where
  | blank
  | pair (pair : Pair)
  | heading (heading : Heading)

def readHeading : List Char → Option (Heading × List Char)
  | '[' :: rest => do
      let (path, rest) ← readPath maxDepth rest
      let rest ← readMark ']' rest
      let rest ← readMark ']' rest
      pure (.array path, rest)
  | rest => do
      let (path, rest) ← readPath maxDepth rest
      let rest ← readMark ']' rest
      pure (.table path, rest)

def readLine (text : List Char) : Option (Line × List Char) :=
  match skipBlanks text with
  | '[' :: rest => (readHeading rest).map fun (heading, rest) => (.heading heading, rest)
  | c :: rest =>
      if c = '#' ∨ c = '\n' ∨ c = '\r' then some (.blank, c :: rest)
      else
        (readPair? (readValue maxDepth) (c :: rest)).map fun (pair, rest) => (.pair pair, rest)
  | [] => some (.blank, [])

def readLines : Nat → List Char → Option (List Line)
  | _, [] => some []
  | 0, _ => none
  | fuel + 1, text => do
      let (line, rest) ← readLine text
      let rest ← lineEnd? rest
      let lines ← readLines fuel rest
      pure (line :: lines)

/-- The pairs before the first heading, and the sections from there on. -/
def gather : List Line → List Pair × List Section
  | [] => ([], [])
  | .blank :: lines => gather lines
  | .pair pair :: lines =>
      let (pairs, sections) := gather lines
      (pair :: pairs, sections)
  | .heading heading :: lines =>
      let (pairs, sections) := gather lines
      ([], ⟨heading, pairs⟩ :: sections)

/-- A byte order mark may come first. -/
def dropMark : List Char → List Char
  | '\uFEFF' :: rest => rest
  | text => text

def parse (text : String) : Option Members := do
  let text := dropMark text.toList
  let lines ← readLines (text.length + 1) text
  let (pairs, sections) := gather lines
  ofSections? pairs sections

end Heartbeat.Toml
