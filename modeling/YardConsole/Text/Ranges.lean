/-! # Classes of characters as ranges of code points -/

namespace YardConsole.Text

/-- A class of characters: ranges of code points, both ends included. -/
abbrev Ranges := List (Nat × Nat)

def Ranges.has (ranges : Ranges) (c : Char) : Bool :=
  ranges.any fun (low, high) => low ≤ c.toNat && c.toNat ≤ high

/-- ASCII, whose classes are told without a table. -/
def isAscii (c : Char) : Bool := c.toNat < 0x80

end YardConsole.Text
