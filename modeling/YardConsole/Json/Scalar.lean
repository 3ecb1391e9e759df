import YardConsole.Json.Fault
import YardConsole.Text.Find
import YardConsole.Text.Surrogate

/-! # Reading words, numbers and strings

Each reader takes the text that is left and gives back what it did not use.
-/

namespace YardConsole.Json

/-- A value read, and the text behind it. -/
abbrev Read (α : Type) := Except Fault (α × List Char)

def failHere (cause : Cause) (rest : List Char) : Except Fault α := .error ⟨cause, rest, 0⟩

/-- Fails after one more byte, if there is one. -/
def failAt (cause : Cause) (rest : List Char) : Except Fault α := .error ⟨cause, rest, 1⟩

/-! ## Blanks and words -/

def isSpace (c : Char) : Bool := c == ' ' || c == '\n' || c == '\t' || c == '\r'

def skipSpace (cs : List Char) : List Char := cs.dropWhile isSpace

/-- The other letters of a word, after its first one. -/
def word : List Char → List Char → Except Fault (List Char)
  | [], rest => .ok rest
  | _ :: _, [] => failHere (.ended .value) []
  | letter :: letters, c :: rest =>
    if c = letter then word letters rest else failAt .expectedIdent (c :: rest)

/-! ## Numbers -/

def digitValue (c : Char) : Nat := c.toNat - '0'.toNat

/-- Adds digits to `n` as long as it stays below `limit`; how many were added, and the rest. -/
def absorb (limit n : Nat) : List Char → Nat × Nat × List Char
  | [] => (n, 0, [])
  | c :: rest =>
    if c.isDigit && 10 * n + digitValue c < limit then
      let (m, count, rest) := absorb limit (10 * n + digitValue c) rest
      (m, count + 1, rest)
    else (n, 0, c :: rest)

/-- A power of ten up to `10 ^ 308`, rounded to the nearest float. -/
def powerOfTen (n : Nat) : Float := Float.ofScientific 1 false n

/-- `f` divided by `10 ^ n`, in steps of `10 ^ 308`. -/
def scaleDown (f : Float) (n : Nat) : (steps : Nat) → Float
  | 0 => f
  | steps + 1 =>
    if n ≤ 308 then f / powerOfTen n
    else if f == 0 then f
    else scaleDown (f / powerOfTen 308) (n - 308) steps

/-- `f * 10 ^ n`, if it is finite. -/
def scaleUp (f : Float) (n : Nat) : Option Float :=
  if n ≤ 308 then
    let g := f * powerOfTen n
    if g.isInf then none else some g
  else if f == 0 then some f else none

/-- The float of some digits times a power of ten: one rounding of the digits, then one of the
product or quotient. -/
def floatOf (negative : Bool) (digits : Nat) (power : Int) (rest : List Char) : Read Json :=
  let scaled :=
    match power with
    | .ofNat n => scaleUp (Float.ofNat digits) n
    | .negSucc n => some (scaleDown (Float.ofNat digits) (n + 1) (n + 1))
  match scaled with
  | some f => .ok (.float (if negative then -f else f), rest)
  | none => failHere .numberOutOfRange rest

/-- The digits of a power of ten after the first one; none when they pass the limit. -/
def powerDigits (n : Nat) : List Char → Option Nat × List Char
  | [] => (some n, [])
  | c :: rest =>
    if c.isDigit then
      if 10 * n + digitValue c < Nat.pow 2 31 then powerDigits (10 * n + digitValue c) rest
      else (none, rest)
    else (some n, c :: rest)

/-- Behind the sign of a power of ten. -/
def power (negative : Bool) (digits : Nat) (start : Int) (up : Bool) : List Char → Read Json
  | [] => failHere (.ended .value) []
  | c :: rest =>
    if !c.isDigit then failAt .invalidNumber (c :: rest)
    else match powerDigits (digitValue c) rest with
      | (some n, rest) => floatOf negative digits (if up then start + n else start - n) rest
      | (none, rest) =>
        if digits ≠ 0 ∧ up then failHere .numberOutOfRange rest
        else .ok (.float (if negative then -0.0 else 0.0), rest.dropWhile Char.isDigit)

/-- Behind the `e` of a number. -/
def signedPower (negative : Bool) (digits : Nat) (start : Int) : List Char → Read Json
  | '+' :: rest => power negative digits start true rest
  | '-' :: rest => power negative digits start false rest
  | rest => power negative digits start true rest

/-- Behind the digits of a float: a power of ten, or its end. -/
def afterDigits (negative : Bool) (digits : Nat) (start : Int) : List Char → Read Json
  | 'e' :: rest | 'E' :: rest => signedPower negative digits start rest
  | rest => floatOf negative digits start rest

/-- Behind the point of a number. Digits that do not fit are dropped. -/
def fraction (negative : Bool) (digits : Nat) (start : Int) : List Char → Read Json
  | [] => failHere (.ended .value) []
  | c :: rest =>
    if !c.isDigit then failAt .invalidNumber (c :: rest)
    else
      let (digits, count, rest) := absorb (Nat.pow 2 64) digits (c :: rest)
      afterDigits negative digits (start - count) (rest.dropWhile Char.isDigit)

/-- A whole number, which becomes a float where sixty-four bits do not hold it. -/
def wholeNumber (negative : Bool) (n : Nat) : Json :=
  if !negative then .int n
  else if 0 < n ∧ n ≤ Nat.pow 2 63 then .int (-n)
  else .float (-(Float.ofNat n))

/-- Behind the whole part of a number. `dropped` counts its digits that did not fit. -/
def afterWhole (negative : Bool) (n dropped : Nat) : List Char → Read Json
  | '.' :: rest => fraction negative n dropped rest
  | 'e' :: rest | 'E' :: rest => signedPower negative n dropped rest
  | rest =>
    if dropped = 0 then .ok (wholeNumber negative n, rest) else floatOf negative n dropped rest

/-- A number behind its sign. -/
def number (negative : Bool) : List Char → Read Json
  | [] => failHere (.ended .value) []
  | c :: rest =>
    if c = '0' then
      if rest.head?.any Char.isDigit then failAt .invalidNumber rest
      else afterWhole negative 0 0 rest
    else if c.isDigit then
      let (n, _, rest) := absorb (Nat.pow 2 64) (digitValue c) rest
      afterWhole negative n (rest.takeWhile Char.isDigit).length (rest.dropWhile Char.isDigit)
    else failAt .invalidNumber (c :: rest)

/-! ## Strings -/

def hexValue? (c : Char) : Option Nat :=
  if c.isDigit then some (digitValue c)
  else if 'a' ≤ c ∧ c ≤ 'f' then some (c.toNat - 'a'.toNat + 10)
  else if 'A' ≤ c ∧ c ≤ 'F' then some (c.toNat - 'A'.toNat + 10)
  else none

/-- Four hexadecimal digits. -/
def fourDigits? : List Char → Option (Nat × List Char)
  | a :: b :: c :: d :: rest => do
    let a ← hexValue? a
    let b ← hexValue? b
    let c ← hexValue? c
    let d ← hexValue? d
    some (((a * 16 + b) * 16 + c) * 16 + d, rest)
  | _ => none

/-- The number behind `\u`. Four bytes are taken, whatever they are. -/
def codeUnit (cs : List Char) : Read Nat :=
  match fourDigits? cs with
  | some found => .ok found
  | none =>
    if Text.byteLength cs < 4 then failHere (.ended .string) []
    else .error ⟨.invalidEscape, cs, 4⟩

/-- Behind a high surrogate: a low one has to follow. -/
def lowSurrogate (high : Nat) : List Char → Read Char
  | [] | ['\\'] => failHere (.ended .string) []
  | '\\' :: 'u' :: rest =>
    match codeUnit rest with
    | .ok (low, rest) =>
      if Text.Surrogate.isLow low then .ok (Text.Surrogate.join high low, rest)
      else failHere .loneSurrogate rest
    | .error f => .error f
  | '\\' :: rest => failAt .unfinishedSurrogate rest
  | rest => failAt .unfinishedSurrogate rest

/-- Behind `\u`. -/
def codePoint (cs : List Char) : Read Char :=
  match codeUnit cs with
  | .ok (n, rest) =>
    if Text.Surrogate.isLow n then failHere .loneSurrogate rest
    else if Text.Surrogate.isHigh n then lowSurrogate n rest
    else .ok (Char.ofNat n, rest)
  | .error f => .error f

/-- The escapes of one letter. -/
def shortEscape? : Char → Option Char
  | '"' => some '"'
  | '\\' => some '\\'
  | '/' => some '/'
  | 'b' => some '\x08'
  | 'f' => some '\x0c'
  | 'n' => some '\n'
  | 'r' => some '\r'
  | 't' => some '\t'
  | _ => none

/-- Behind a backslash. -/
def escaped : List Char → Read Char
  | [] => failHere (.ended .string) []
  | c :: rest =>
    match shortEscape? c with
    | some e => .ok (e, rest)
    | none => if c = 'u' then codePoint rest else failAt .invalidEscape (c :: rest)

/-- The characters up to the closing quote; `done` holds those before, reversed. No more are read
than `bound` has. -/
def characters (done : List Char) : (bound : List Char) → List Char → Read String
  | [], rest => failHere (.ended .string) rest
  | _ :: _, [] => failHere (.ended .string) []
  | _ :: bound, c :: rest =>
    if c = '"' then .ok (String.ofList done.reverse, rest)
    else if c = '\\' then
      match escaped rest with
      | .ok (e, rest) => characters (e :: done) bound rest
      | .error f => .error f
    else if c.toNat < 0x20 then failAt .controlCharacter (c :: rest)
    else characters (c :: done) bound rest

/-- A string behind its opening quote. -/
def string (cs : List Char) : Read String := characters [] cs cs

end YardConsole.Json
