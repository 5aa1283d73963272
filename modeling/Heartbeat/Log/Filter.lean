import Heartbeat.Log.Notice
import Heartbeat.Text.Blank

/-!
Which notices are written to the log. A filter is a list of directives, separated by commas: a
level for everything, a target with a level, or a target alone, of which everything is written.
-/

namespace Heartbeat

/-- A directive without a level writes nothing. Those for certain spans say nothing about notices
outside of them. -/
structure Directive where
  level : Option Level
  target : String := ""
  inSpan : Bool := false
deriving DecidableEq

structure Filter where
  directives : List Directive
deriving DecidableEq

namespace Directive

def digitsNumber? (text : List Char) : Option Nat :=
  if text = [] ∨ !text.all Char.isDigit then none
  else some (text.foldl (fun n c => n * 10 + (c.toNat - 48)) 0)

/-- Levels by their numbers, from silence to everything. -/
def levelOfNumber? : Nat → Option (Option Level)
  | 0 => some none
  | 1 => some (some .error)
  | 2 => some (some .warning)
  | 3 => some (some .info)
  | 4 => some (some .debug)
  | 5 => some (some .trace)
  | _ => none

def levelOfName? (name : List Char) : Option (Option Level) :=
  if name = "OFF".toList then some none
  else (Level.all.find? (·.name.toList = name)).map some

/-- A level is a number, or a name in small or capital letters. -/
def level? (text : List Char) : Option (Option Level) :=
  let digits :=
    match text with
    | '+' :: rest => rest
    | text => text
  match digitsNumber? digits with
  | some n => levelOfNumber? n
  | none => levelOfName? (text.map Char.toUpper)

/-- Everything is written where a level is missing behind its equals sign. -/
def levelAfter? (text : List Char) : Option (Option Level) :=
  if text = [] then some (some .trace) else level? text

/-- Letters beyond ASCII may start a target, too. -/
def startsWord (c : Char) : Bool :=
  c = '-' || c = ':' || c = '_' || c.isAlphanum || 127 < c.toNat

/-- The fields in braces of a span, each of which has a name, and what follows the brace. -/
def skipFields (named : Bool) : List Char → Option (List Char)
  | [] => none
  | c :: rest =>
      if c = '}' then (if named then some rest else none)
      else if c = ',' then (if named then skipFields false rest else none)
      else skipFields true rest

def skipSpan : List Char → Option (List Char)
  | [] => none
  | c :: rest =>
      if c = ']' then some rest
      else if c = '{' then
        match skipFields false rest with
        | some (']' :: rest) => some rest
        | _ => none
      else skipSpan rest

def ofSpan? (target : String) (text : List Char) : Option Directive := do
  let rest ← skipSpan text
  match rest with
  | [] => some ⟨some .trace, target, true⟩
  | '=' :: rest => (levelAfter? rest).map fun level => ⟨level, target, true⟩
  | _ => none

def endsWord (c : Char) : Bool :=
  c = '=' || c = '['

def trim (text : List Char) : List Char :=
  (Text.trimStart (Text.trimStart text).reverse).reverse

/-- Blanks around a directive do not count when its parts are told apart, but the parts are then
counted off from the whole text. -/
def parse? (text : List Char) : Option Directive :=
  let trimmed := trim text
  match trimmed with
  | [] => none
  | '[' :: rest => ofSpan? "" rest
  | c :: _ =>
      if startsWord c then
        let length := (trimmed.takeWhile (!endsWord ·)).length
        let target := String.ofList (text.take length)
        match trimmed.drop length with
        | '=' :: _ =>
            (levelAfter? (text.drop (length + 1))).map fun level => ⟨level, target, false⟩
        | '[' :: rest => ofSpan? target rest
        | _ =>
            match level? text with
            | some level => some ⟨level, "", false⟩
            | none => some ⟨some .trace, String.ofList text, false⟩
      else none

def covers (directive : Directive) (target : String) : Bool :=
  !directive.inSpan && directive.target.toList.isPrefixOf target.toList

/-- Of two directives about the same target, the one with the longer target counts, and of equal
ones the later. -/
def prefer (best : Option Directive) (directive : Directive) : Option Directive :=
  match best with
  | none => some directive
  | some old =>
      if old.target.length ≤ directive.target.length then some directive else some old

end Directive

namespace Filter

def splitCommas : List Char → List (List Char)
  | [] => [[]]
  | c :: text =>
      if c = ',' then [] :: splitCommas text
      else
        match splitCommas text with
        | [] => [[c]]
        | part :: parts => (c :: part) :: parts

/-- A text in which every directive is in order. The empty text has no directives. -/
def ofStrict? (text : String) : Option Filter :=
  if text = "" then some ⟨[]⟩
  else ((splitCommas text.toList).mapM Directive.parse?).map Filter.mk

/-- Passes over directives that are not in order. Errors are written if none is left. -/
def ofLenient (text : String) : Filter :=
  match (splitCommas text.toList).filterMap Directive.parse? with
  | [] => ⟨[⟨some .error, "", false⟩]⟩
  | directives => ⟨directives⟩

def directive? (filter : Filter) (target : String) : Option Directive :=
  (filter.directives.filter (·.covers target)).foldl Directive.prefer none

def allows (filter : Filter) (target : String) (level : Level) : Bool :=
  match filter.directive? target with
  | some ⟨some most, _, _⟩ => level.rank ≤ most.rank
  | _ => false

def allowsNotice (filter : Filter) (notice : Notice) : Bool :=
  filter.allows notice.speaker.target notice.level

end Filter

example : (Filter.ofLenient "warn,other=debug").allows "other" .debug = true := by decide +kernel

example : (Filter.ofLenient "").allows "other" .warning = false := by decide +kernel

end Heartbeat
