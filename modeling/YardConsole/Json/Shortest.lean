/-! # The shortest decimal of a float

Of all decimals that read back as a float, the ones with the fewest digits are taken, of these
the nearest, and of two as near the even one. All of it is exact arithmetic on natural numbers.
-/

namespace YardConsole

/-- The number `mantissa * 2 ^ exponent`. -/
structure Binary where
  mantissa : Nat
  exponent : Int
deriving DecidableEq

/-- The number `digits * 10 ^ exponent`. -/
structure Decimal where
  digits : Nat
  exponent : Int
deriving DecidableEq, Inhabited

namespace Binary

/-- The size of a finite float, from its bits. -/
def ofFloat (x : Float) : Binary :=
  let fraction := x.toBits.toNat % Nat.pow 2 52
  let scale : Nat := x.toBits.toNat / Nat.pow 2 52 % Nat.pow 2 11
  if scale = 0 then ⟨fraction, -1074⟩ else ⟨Nat.pow 2 52 + fraction, (scale : Int) - 1075⟩

/-! ## Comparing with decimals

`n * 2 ^ q` and `d * 10 ^ k` are compared as natural numbers, each times what the other one is
divided by.
-/

def scaled (n : Nat) (q k : Int) : Nat :=
  n * Nat.pow 2 q.toNat * Nat.pow 10 (-k).toNat

def decimalScaled (d : Nat) (q k : Int) : Nat :=
  d * Nat.pow 10 k.toNat * Nat.pow 2 (-q).toNat

/-- How often `10 ^ k` goes into the number. -/
def wholeTimes (b : Binary) (k : Int) : Nat :=
  scaled b.mantissa b.exponent k / decimalScaled 1 b.exponent k

/-- A power of ten that is at most one place off the first digit. -/
def leadGuess (b : Binary) : Int := ((b.mantissa.log2 : Int) + b.exponent) * 30103 / 100000

/-- The place of the first digit. -/
def lead (b : Binary) : Int :=
  let k := b.leadGuess
  if b.wholeTimes k = 0 then k - 1 else if b.wholeTimes (k + 1) = 0 then k else k + 1

/-- `d * 10 ^ k` reads back as this float. The bounds are halfway to the neighbours, in quarters
of a unit of the mantissa, and belong to the float when its mantissa is even. -/
def readsBack (b : Binary) (d : Nat) (k : Int) : Bool :=
  let q := b.exponent - 2
  let below := if b.mantissa = Nat.pow 2 52 ∧ b.exponent ≠ -1074 then 1 else 2
  let low := scaled (4 * b.mantissa - below) q k
  let high := scaled (4 * b.mantissa + 2) q k
  let value := decimalScaled d q k
  if b.mantissa % 2 = 0 then low ≤ value && value ≤ high else low < value && value < high

/-- Of `d` and its successor at the place `k`, the one nearer to the number. -/
def nearer (b : Binary) (d : Nat) (k : Int) : Nat :=
  let value := scaled (2 * b.mantissa) b.exponent k
  let middle := decimalScaled (2 * d + 1) b.exponent k
  if value < middle then d
  else if middle < value then d + 1
  else if d % 2 = 0 then d else d + 1

/-! ## Digits -/

/-- The decimal with `count + 1` digits that reads back, if there is one. -/
def withDigits (b : Binary) (count : Nat) : Option Decimal :=
  let k := b.lead - count
  let d := b.wholeTimes k
  let found :=
    match b.readsBack d k, b.readsBack (d + 1) k with
    | true, true => some (b.nearer d k)
    | true, false => some d
    | false, true => some (d + 1)
    | false, false => none
  found.map fun d => if d = Nat.pow 10 (count + 1) then ⟨1, k + count + 1⟩ else ⟨d, k⟩

/-- The shortest decimal that reads back; seventeen digits are always enough. -/
def shortest (b : Binary) : Decimal := ((List.range 17).findSome? b.withDigits).getD default

end Binary

end YardConsole
