import YardConsole.Json.Basic
import YardConsole.Json.Shortest

/-! # Writing JSON

One writer for both forms, on one line and indented.
-/

namespace YardConsole.Json

/-! ## Numbers -/

def naturalText (n : Nat) : List Char := Nat.toDigits 10 n

def intText : Int → List Char
  | .ofNat n => naturalText n
  | .negSucc n => '-' :: naturalText (n + 1)

/-- Digits with a point before the place `point`; there is always a digit on both sides. -/
def plainText (digits : List Char) (point : Int) : List Char :=
  if point ≤ 0 then ['0', '.'] ++ List.replicate (-point).toNat '0' ++ digits
  else if digits.length ≤ point.toNat then
    digits ++ List.replicate (point.toNat - digits.length) '0' ++ ['.', '0']
  else digits.take point.toNat ++ '.' :: digits.drop point.toNat

/-- One digit, the others behind a point, and the power of ten with its sign. -/
def scientificText (digits : List Char) (power : Int) : List Char :=
  digits.take 1 ++ (if digits.length = 1 then [] else '.' :: digits.drop 1) ++
    'e' :: (if power < 0 then '-' else '+') :: naturalText power.natAbs

/-- Plain from `0.00001` to below `10 ^ 16`, else with a power of ten. -/
def decimalText (d : Decimal) : List Char :=
  let digits := naturalText d.digits
  let point := digits.length + d.exponent
  if -5 < point ∧ point ≤ 16 then plainText digits point else scientificText digits (point - 1)

/-- The sign of a float, which zero has too. -/
def isNegative (x : Float) : Bool := Nat.pow 2 63 ≤ x.toBits.toNat

/-- What is no finite number is written as null. -/
def floatText (x : Float) : List Char :=
  if x.isNaN || x.isInf then ['n', 'u', 'l', 'l']
  else
    let size := Binary.ofFloat x
    (if isNegative x then ['-'] else []) ++
      if size.mantissa = 0 then ['0', '.', '0'] else decimalText size.shortest

/-! ## Strings -/

/-- Quotes, backslashes and the controls below space are escaped, nothing else. -/
def escapeChar (c : Char) : List Char :=
  match c with
  | '"' => ['\\', '"']
  | '\\' => ['\\', '\\']
  | '\x08' => ['\\', 'b']
  | '\x0c' => ['\\', 'f']
  | '\n' => ['\\', 'n']
  | '\r' => ['\\', 'r']
  | '\t' => ['\\', 't']
  | c =>
    if c.toNat < 0x20 then
      ['\\', 'u', '0', '0', Nat.digitChar (c.toNat / 16), Nat.digitChar (c.toNat % 16)]
    else [c]

def stringText (s : String) : List Char := '"' :: s.toList.flatMap escapeChar ++ ['"']

/-! ## Values -/

/-- What stands between the parts of lists and objects. -/
structure Layout where
  /-- Before an item or a closing bracket, by the depth it stands at. -/
  gap : Nat → List Char
  /-- Between a key and its value. -/
  colon : List Char

/-- Everything on one line, without spaces. -/
def Layout.compact : Layout := ⟨fun _ => [], [':']⟩

/-- An item a line, each depth two spaces in. -/
def Layout.indented : Layout := ⟨fun depth => '\n' :: List.replicate (2 * depth) ' ', [':', ' ']⟩

mutual

/-- The text of a value that stands at `depth`. -/
def write (l : Layout) (depth : Nat) : Json → List Char
  | null => ['n', 'u', 'l', 'l']
  | bool true => ['t', 'r', 'u', 'e']
  | bool false => ['f', 'a', 'l', 's', 'e']
  | int n => intText n
  | float x => floatText x
  | str s => stringText s
  | arr [] => ['[', ']']
  | arr (x :: xs) =>
    '[' :: l.gap (depth + 1) ++ write l (depth + 1) x ++ writeItems l depth xs
  | obj [] => ['{', '}']
  | obj ((k, x) :: ms) =>
    '{' :: l.gap (depth + 1) ++ stringText k ++ l.colon ++ write l (depth + 1) x ++
      writeMembers l depth ms
termination_by structural j => j

/-- The items behind the first one, and the closing bracket. -/
def writeItems (l : Layout) (depth : Nat) : List Json → List Char
  | [] => l.gap depth ++ [']']
  | x :: xs => ',' :: l.gap (depth + 1) ++ write l (depth + 1) x ++ writeItems l depth xs
termination_by structural xs => xs

/-- The members behind the first one, and the closing brace. -/
def writeMembers (l : Layout) (depth : Nat) : List (String × Json) → List Char
  | [] => l.gap depth ++ ['}']
  | (k, x) :: ms =>
    ',' :: l.gap (depth + 1) ++ stringText k ++ l.colon ++ write l (depth + 1) x ++
      writeMembers l depth ms
termination_by structural ms => ms

end

def compact (j : Json) : String := String.ofList (j.write .compact 0)

def indented (j : Json) : String := String.ofList (j.write .indented 0)

end YardConsole.Json
