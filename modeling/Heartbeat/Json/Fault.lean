import Heartbeat.Bytes
import Heartbeat.Shape

/-!
Why a text is refused as JSON, or as JSON of the wanted shape, and where. A fault counts the
bytes that follow its place; `Fault.diagnose` turns that into a line and a column of the input.
-/

namespace Heartbeat.Json

inductive Rejection where
  | mismatch (why : Mismatch)
  | unknownVariant (name : String) (known : List String)
  | missingField (name : String)
  | duplicateField (name : String)
  | wrongLength (length : Nat) (expected : String)
  | unreadable (why : String)
deriving DecidableEq

inductive Cause where
  | endInValue
  | endInList
  | endInObject
  | endInString
  | expectedValue
  | expectedWord
  | expectedColon
  | expectedListSeparator
  | expectedObjectSeparator
  | trailingComma
  | trailingCharacters
  | keyNotString
  | tooDeep
  | invalidNumber
  | numberOutOfRange
  | invalidEscape
  | loneSurrogate
  | unfinishedSurrogate
  | invalidCodePoint
  | controlCharacter
  | rejected (why : Rejection)
deriving DecidableEq

def listed : List String → String
  | [] => ""
  | [name] => "`" ++ name ++ "`"
  | name :: names => "`" ++ name ++ "`, " ++ listed names

def Rejection.text : Rejection → String
  | .mismatch why => why.text
  | .unknownVariant name known =>
      "unknown variant `" ++ name ++ "`, expected one of " ++ listed known
  | .missingField name => "missing field `" ++ name ++ "`"
  | .duplicateField name => "duplicate field `" ++ name ++ "`"
  | .wrongLength length expected =>
      "invalid length " ++ toString length ++ ", expected " ++ expected
  | .unreadable why => why

def Cause.text : Cause → String
  | .endInValue => "EOF while parsing a value"
  | .endInList => "EOF while parsing a list"
  | .endInObject => "EOF while parsing an object"
  | .endInString => "EOF while parsing a string"
  | .expectedValue => "expected value"
  | .expectedWord => "expected ident"
  | .expectedColon => "expected `:`"
  | .expectedListSeparator => "expected `,` or `]`"
  | .expectedObjectSeparator => "expected `,` or `\x7d`"
  | .trailingComma => "trailing comma"
  | .trailingCharacters => "trailing characters"
  | .keyNotString => "key must be a string"
  | .tooDeep => "recursion limit exceeded"
  | .invalidNumber => "invalid number"
  | .numberOutOfRange => "number out of range"
  | .invalidEscape => "invalid escape"
  | .loneSurrogate => "lone leading surrogate in hex escape"
  | .unfinishedSurrogate => "unexpected end of hex escape"
  | .invalidCodePoint => "invalid unicode code point"
  | .controlCharacter => "control character (\\u0000-\\u001F) found while parsing a string"
  | .rejected why => why.text

/-- Faults of values that are no longer text have no place. -/
structure Fault where
  cause : Cause
  left : Option Nat
deriving DecidableEq

/-- A fault of what has been read when `rest` is left. -/
def Fault.behind (cause : Cause) (rest : Bytes) : Fault :=
  ⟨cause, some rest.length⟩

/-- A fault of the byte that comes next, or of the end of the text. -/
def Fault.ahead (cause : Cause) (rest : Bytes) : Fault :=
  ⟨cause, some (rest.length - 1)⟩

def newline : UInt8 := 0x0A

/-- A place in a text: lines count from one, columns are the bytes since the line began. -/
structure Place where
  line : Nat
  column : Nat
deriving DecidableEq

def Place.behind (before : Bytes) : Place where
  line := before.count newline + 1
  column := (before.reverse.takeWhile (· != newline)).length

structure Diagnosis where
  cause : Cause
  place : Option Place
deriving DecidableEq

def Fault.diagnose (input : Bytes) (fault : Fault) : Diagnosis where
  cause := fault.cause
  place := fault.left.map fun left => .behind (input.take (input.length - left))

def Diagnosis.text (diagnosis : Diagnosis) : String :=
  match diagnosis.place with
  | none => diagnosis.cause.text
  | some place =>
      diagnosis.cause.text ++ " at line " ++ toString place.line
        ++ " column " ++ toString place.column

/-- What a reader made of the bytes it took, and the bytes after them. -/
abbrev Result (α : Type) := Except Fault (α × Bytes)

end Heartbeat.Json
