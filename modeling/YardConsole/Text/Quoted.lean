import YardConsole.Text.Hidden

/-! # Quoted text in messages

Quotes, backslashes and characters that would not be seen are escaped.
-/

namespace YardConsole.Text

/-- `\u{…}` with the code point in lower-case hexadecimal digits. -/
def codePoint (c : Char) : List Char :=
  ['\\', 'u', '\x7b'] ++ Nat.toDigits 16 c.toNat ++ ['\x7d']

/-- Shown as it is. -/
def isShown (c : Char) : Bool :=
  if isAscii c then ' ' ≤ c && c ≤ '~' else !extending.has c && !fillers.has c && !unprintable.has c

def quotedChar (c : Char) : List Char :=
  match c with
  | '\x00' => ['\\', '0']
  | '\t' => ['\\', 't']
  | '\r' => ['\\', 'r']
  | '\n' => ['\\', 'n']
  | '"' => ['\\', '"']
  | '\\' => ['\\', '\\']
  | c => if isShown c then [c] else codePoint c

/-- The text between quotes, as a message shows it. -/
def quoted (s : String) : String :=
  String.ofList ('"' :: s.toList.flatMap quotedChar ++ ['"'])

end YardConsole.Text
