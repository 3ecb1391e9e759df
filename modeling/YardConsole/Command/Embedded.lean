import YardConsole.Json.Reader

/-! # JSON inside other text

Reading starts at a brace and takes one value; what stands behind it does not matter.
-/

namespace YardConsole.Embedded

/-! ## The first brace -/

/-- What stands before the first opening brace. -/
def before (cs : List Char) : List Char := cs.takeWhile (· ≠ '{')

/-- The first opening brace and what stands behind it. -/
def fromBrace (cs : List Char) : List Char := cs.dropWhile (· ≠ '{')

/-- Where the first opening brace is, in bytes. -/
def braceOffset? (cs : List Char) : Option Nat :=
  if (fromBrace cs).isEmpty then none else some (Text.byteLength (before cs))

/-! ## Values -/

/-- What there is at the first brace of a text. -/
inductive Found where
  | absent
  | invalid (e : Json.ReadError)
  | value (j : Json)
deriving Inhabited

/-- The value at the first brace. -/
def atFirstBrace (cs : List Char) : Found :=
  match fromBrace cs with
  | [] => .absent
  | rest =>
    match Json.readStart rest with
    | .ok j => .value j
    | .error e => .invalid e

/-- The value at the first brace where one can be read. -/
def firstObject? : List Char → Option Json
  | [] => none
  | c :: rest =>
    if c = '{' then
      match Json.startValue? (c :: rest) with
      | some j => some j
      | none => firstObject? rest
    else firstObject? rest

end YardConsole.Embedded
