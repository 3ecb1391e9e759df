import YardConsole.Text.Casing

/-! # What is asked of a server

The text behind the server in an address, as a request has it: no fragment, no segments of dots,
and escapes for the characters that do not stand for themselves.
-/

namespace YardConsole.Http

/-! ## Escapes -/

def percentByte (b : UInt8) : List Char :=
  ['%', (Nat.digitChar (b.toNat / 16)).toUpper, (Nat.digitChar (b.toNat % 16)).toUpper]

/-- Stands for itself where `others` do not. -/
def isPlain (others : List Char) (c : Char) : Bool := '!' ≤ c && c ≤ '~' && !others.contains c

def percentText (others cs : List Char) : List Char :=
  cs.flatMap fun c =>
    if isPlain others c then [c] else (String.utf8EncodeChar c).flatMap percentByte

/-- What does not stand for itself in a path. -/
def pathOthers : List Char := ['"', '#', '<', '>', '?', '\x60', '{', '}']

/-- What does not stand for itself in a query. -/
def queryOthers : List Char := ['"', '#', '\x27', '<', '>']

/-! ## Segments -/

/-- The spellings of the segment that stays. -/
def stays : List String := [".", "%2e"]

/-- The spellings of the segment that goes back. -/
def goesBack : List String := ["..", ".%2e", "%2e.", "%2e%2e"]

def isSpelled (spellings : List String) (segment : List Char) : Bool :=
  spellings.any (Text.sameIgnoringCase (String.ofList segment))

/-- What a segment makes of those before, which are reversed. -/
def step (before : List (List Char)) (segment : List Char) : List (List Char) :=
  if isSpelled goesBack segment then before.tail
  else if isSpelled stays segment then before
  else segment :: before

/-- The segments of a path without those of dots. A path that ends in dots ends in an empty
segment. -/
def withoutDots (segments : List (List Char)) : List (List Char) :=
  let walked := segments.foldl step []
  (if segments.getLast?.any (isSpelled (stays ++ goesBack)) then [] :: walked else walked).reverse

/-- A path behind its first slash. -/
def pathText (cs : List Char) : List Char :=
  (withoutDots (cs.splitOn '/')).flatMap fun segment => '/' :: percentText pathOthers segment

/-! ## Targets -/

/-- What an address is read without. -/
def isIgnored (c : Char) : Bool := c == '\t' || c == '\n' || c == '\r'

/-- A backslash is a slash. -/
def slashed (c : Char) : Char := if c = '\\' then '/' else c

/-- What is asked, by the text behind the server; none if that text goes on naming the server. -/
def target? (behind : String) : Option String :=
  let cs := (behind.toList.filter (!isIgnored ·)).takeWhile (· ≠ '#')
  let query := String.ofList (percentText queryOthers (cs.dropWhile (· ≠ '?')))
  match (cs.takeWhile (· ≠ '?')).map slashed with
  | [] => some ("/" ++ query)
  | '/' :: path => some (String.ofList (pathText path) ++ query)
  | _ => none

end YardConsole.Http
