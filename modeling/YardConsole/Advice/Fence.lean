import YardConsole.Text.Find

/-! # Fenced blocks -/

namespace YardConsole.Fence

def mark : List Char := ['\x60', '\x60', '\x60']

def dropOne (c : Char) : List Char → List Char
  | x :: rest => if x = c then rest else x :: rest
  | [] => []

/-- A block without its tag: letters, then spaces and tabs, then the end of the line. -/
def withoutTag (block : List Char) : List Char :=
  let rest := (block.dropWhile Char.isAlpha).dropWhile fun c => c = ' ' || c = '\t'
  dropOne '\n' (dropOne '\r' rest)

/-- What stands between the first two marks, without its tag. -/
def block? (cs : List Char) : Option (List Char) := do
  let (_, rest) ← Text.cut mark cs
  let (block, _) ← Text.cut mark rest
  some (withoutTag block)

end YardConsole.Fence
