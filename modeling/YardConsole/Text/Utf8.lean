/-! # Reading UTF-8

What is no UTF-8 is replaced. A sequence that breaks off gives one replacement for all of it that
was well formed so far, and any other byte that does not fit gives one for itself.
-/

namespace YardConsole.Text

/-- A character that is being read: the bits so far, how many bytes are owed, and between what
bounds the next one has to lie. -/
structure Sequence where
  bits : Nat
  owed : Nat
  low : Nat
  high : Nat

/-- The sequence that a byte begins, if it begins one of several bytes. -/
def leading? (b : Nat) : Option Sequence :=
  if 0xc2 ≤ b ∧ b ≤ 0xdf then some ⟨b - 0xc0, 1, 0x80, 0xbf⟩
  else if b = 0xe0 then some ⟨0, 2, 0xa0, 0xbf⟩
  else if b = 0xed then some ⟨0xd, 2, 0x80, 0x9f⟩
  else if 0xe1 ≤ b ∧ b ≤ 0xef then some ⟨b - 0xe0, 2, 0x80, 0xbf⟩
  else if b = 0xf0 then some ⟨0, 3, 0x90, 0xbf⟩
  else if b = 0xf4 then some ⟨4, 3, 0x80, 0x8f⟩
  else if 0xf1 ≤ b ∧ b ≤ 0xf3 then some ⟨b - 0xf0, 3, 0x80, 0xbf⟩
  else none

def replacement : Char := '\uFFFD'

/-- A byte between characters: the characters it gives, and the sequence it begins. -/
def beginChar (b : Nat) : List Char × Option Sequence :=
  if b < 0x80 then ([Char.ofNat b], none)
  else match leading? b with
    | some p => ([], some p)
    | none => ([replacement], none)

def feed (state : Option Sequence) (b : Nat) : List Char × Option Sequence :=
  match state with
  | none => beginChar b
  | some p =>
    if p.low ≤ b ∧ b ≤ p.high then
      let bits := p.bits * 0x40 + (b - 0x80)
      if p.owed = 1 then ([Char.ofNat bits], none)
      else ([], some ⟨bits, p.owed - 1, 0x80, 0xbf⟩)
    else
      let (chars, state) := beginChar b
      (replacement :: chars, state)

/-- The characters of some bytes; `done` holds those before, reversed. -/
def decodeFrom (done : List Char) (state : Option Sequence) : List UInt8 → List Char
  | [] => (if state.isSome then replacement :: done else done).reverse
  | b :: rest =>
    let (chars, state) := feed state b.toNat
    decodeFrom (chars.reverse ++ done) state rest

/-- The text of some bytes, whatever they are. -/
def decodeLossy (bytes : List UInt8) : String := String.ofList (decodeFrom [] none bytes)

end YardConsole.Text
