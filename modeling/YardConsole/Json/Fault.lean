import YardConsole.Json.Writer
import YardConsole.Text.Quoted

/-! # What can be wrong with a JSON text, and where -/

namespace YardConsole.Json

/-! ## Causes -/

/-- What was being read when the text ended. -/
inductive Unfinished where
  | value
  | list
  | object
  | string
deriving DecidableEq

/-- A value where another kind of value was due. -/
inductive Found where
  | null
  | bool (b : Bool)
  | int (n : Int)
  | float (x : Float)
  | string (s : String)
  | sequence
  | map
deriving DecidableEq

inductive Cause where
  | ended (what : Unfinished)
  | expectedValue
  | expectedIdent
  | expectedKey
  | expectedColon
  | expectedListEnd
  | expectedObjectEnd
  | trailingComma
  | trailingCharacters
  | invalidNumber
  | numberOutOfRange
  | controlCharacter
  | invalidEscape
  | loneSurrogate
  | unfinishedSurrogate
  | tooDeep
  | invalidType (found : Found) (expected : String)
  | invalidInteger (n : Int) (expected : String)
  | invalidLength (count : Nat) (expected : String)
  | missingField (name : String)
  | duplicateField (name : String)
  | unknownVariant (name expected : String)
deriving DecidableEq

def Unfinished.text : Unfinished → String
  | value => "a value"
  | list => "a list"
  | object => "an object"
  | string => "a string"

def Found.text : Found → String
  | null => "null"
  | bool true => "boolean `true`"
  | bool false => "boolean `false`"
  | int n => "integer `" ++ String.ofList (intText n) ++ "`"
  | float x => "floating point `" ++ String.ofList (floatText x) ++ "`"
  | string s => "string " ++ Text.quoted s
  | sequence => "sequence"
  | map => "map"

def Cause.text : Cause → String
  | ended what => "EOF while parsing " ++ what.text
  | expectedValue => "expected value"
  | expectedIdent => "expected ident"
  | expectedKey => "key must be a string"
  | expectedColon => "expected `:`"
  | expectedListEnd => "expected `,` or `]`"
  | expectedObjectEnd => "expected `,` or `\x7d`"
  | trailingComma => "trailing comma"
  | trailingCharacters => "trailing characters"
  | invalidNumber => "invalid number"
  | numberOutOfRange => "number out of range"
  | controlCharacter => "control character (\\u0000-\\u001F) found while parsing a string"
  | invalidEscape => "invalid escape"
  | loneSurrogate => "lone leading surrogate in hex escape"
  | unfinishedSurrogate => "unexpected end of hex escape"
  | tooDeep => "recursion limit exceeded"
  | invalidType found expected => "invalid type: " ++ found.text ++ ", expected " ++ expected
  | invalidInteger n expected =>
    "invalid value: integer `" ++ String.ofList (intText n) ++ "`, expected " ++ expected
  | invalidLength count expected =>
    "invalid length " ++ String.ofList (naturalText count) ++ ", expected " ++ expected
  | missingField name => "missing field `" ++ name ++ "`"
  | duplicateField name => "duplicate field `" ++ name ++ "`"
  | unknownVariant name expected => "unknown variant `" ++ name ++ "`, expected " ++ expected

/-! ## Places -/

/-- A cause, the text that was left, and how many bytes of it had been read already. -/
structure Fault where
  cause : Cause
  rest : List Char
  ahead : Nat
deriving DecidableEq

/-- Where a text was left: lines from one, and the bytes read of the line. -/
structure Place where
  line : Nat
  column : Nat
deriving DecidableEq

namespace Place

def start : Place := ⟨1, 0⟩

/-- After one more character. -/
def next (p : Place) (c : Char) : Place :=
  if c = '\n' then ⟨p.line + 1, 0⟩ else ⟨p.line, p.column + c.utf8Size⟩

/-- After `count` more bytes of the text, which may end inside a character. -/
def ahead (p : Place) : (count : Nat) → List Char → Place
  | _, [] => p
  | count, c :: rest =>
    if c.utf8Size ≤ count then ahead (p.next c) (count - c.utf8Size) rest
    else ⟨p.line, p.column + count⟩

end Place

/-- Why a whole text was refused. -/
structure ReadError where
  cause : Cause
  place : Place
deriving DecidableEq

/-- Places a fault in the text it was met in. -/
def Fault.locate (f : Fault) (text : List Char) : ReadError :=
  let read := text.take (text.length - f.rest.length)
  ⟨f.cause, (read.foldl Place.next .start).ahead f.ahead f.rest⟩

def ReadError.message (e : ReadError) : String :=
  e.cause.text ++ " at line " ++ String.ofList (naturalText e.place.line) ++
    " column " ++ String.ofList (naturalText e.place.column)

end YardConsole.Json
