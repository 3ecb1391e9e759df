import YardConsole.Text.Surrogate
import YardConsole.Text.Utf8

/-! # Reading UTF-16

A surrogate that stands alone is replaced, and so is what breaks off at the end.
-/

namespace YardConsole.Text

/-- A unit between characters: the characters it gives, and the surrogate it leaves open. -/
def beginUnit (unit : Nat) : List Char × Option Nat :=
  if Surrogate.isHigh unit then ([], some unit)
  else if Surrogate.isLow unit then ([replacement], none)
  else ([Char.ofNat unit], none)

def feedUnit (high : Option Nat) (unit : Nat) : List Char × Option Nat :=
  match high with
  | none => beginUnit unit
  | some high =>
    if Surrogate.isLow unit then ([Surrogate.join high unit], none)
    else
      let (chars, high) := beginUnit unit
      (replacement :: chars, high)

/-- The characters of some bytes, of which `unit` makes a unit of every two. -/
def decodeUnits (unit : UInt8 → UInt8 → Nat) (high : Option Nat) : List UInt8 → List Char
  | a :: b :: rest =>
    let (chars, high) := feedUnit high (unit a b)
    chars ++ decodeUnits unit high rest
  | rest => if high.isSome || !rest.isEmpty then [replacement] else []

def bigEndian (a b : UInt8) : Nat := 0x100 * a.toNat + b.toNat

def littleEndian (a b : UInt8) : Nat := bigEndian b a

/-- The text of some bytes. A byte order mark tells how they are read and is no part of the text;
without one they are UTF-8. -/
def decodeMarked : List UInt8 → String
  | 0xef :: 0xbb :: 0xbf :: rest => decodeLossy rest
  | 0xfe :: 0xff :: rest => String.ofList (decodeUnits bigEndian none rest)
  | 0xff :: 0xfe :: rest => String.ofList (decodeUnits littleEndian none rest)
  | bytes => decodeLossy bytes

end YardConsole.Text
