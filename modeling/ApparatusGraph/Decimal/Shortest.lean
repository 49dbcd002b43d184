/-
# The shortest decimal that reads back

A positive finite double is `m · 2^q`.  The reals that round to it form the
interval from half a gap below to half a gap above, ends included exactly when `m`
is even; below a power of two the gap is half as wide.  Of the decimals in that
interval `shortest` takes one with the fewest digits, and of those the nearest; of
two equally near it takes the even one.

For `n` digits the candidates are the two neighbours of the value on the grid of
`n`-digit decimals, so everything is decided in natural numbers.
-/

namespace ApparatusGraph
namespace Decimal

/-- The number `significand · 2^exponent`; `narrowBelow` when the double below is at half the
distance of the double above. -/
structure Binary where
  significand : Nat
  exponent : Int
  narrowBelow : Bool

/-- The number `digits · 10^exponent`. -/
structure Digits where
  digits : Nat
  exponent : Int
  deriving DecidableEq

/-- The absolute value of a finite double. -/
def Binary.ofFloat (f : Float) : Binary :=
  let bits := f.toBits.toNat
  let fraction : Nat := bits % 0x10000000000000
  let biased : Nat := bits / 0x10000000000000 % 0x800
  if biased = 0 then ⟨fraction, -1074, false⟩
  else ⟨0x10000000000000 + fraction, (biased : Int) - 1075, fraction = 0 && 1 < biased⟩

/-- True when `c · 10^s` rounds to the double. -/
def Binary.reads (b : Binary) (c : Nat) (s : Int) : Bool :=
  let t := b.exponent - 2
  let point := c * Nat.pow 10 s.toNat * Nat.pow 2 (-t).toNat
  let unit := Nat.pow 2 t.toNat * Nat.pow 10 (-s).toNat
  let low := (4 * b.significand - if b.narrowBelow then 1 else 2) * unit
  let high := (4 * b.significand + 2) * unit
  if b.significand % 2 = 0 then low ≤ point && point ≤ high else low < point && point < high

/-- The value on the scale of `10^s`, as a fraction. -/
def Binary.ratio (b : Binary) (s : Int) : Nat × Nat :=
  (b.significand * Nat.pow 2 b.exponent.toNat * Nat.pow 10 (-s).toNat,
    Nat.pow 2 (-b.exponent).toNat * Nat.pow 10 s.toNat)

/-- The power of ten at the first digit of a positive value: `10^e ≤ value < 10^(e + 1)`. -/
def Binary.magnitude (b : Binary) : Int :=
  let guess := (Nat.log2 b.significand + b.exponent) * 30103 / 100000
  let reaches (e : Int) : Bool := let (n, d) := b.ratio e; d ≤ n
  if reaches (guess + 1) then guess + 1 else if reaches guess then guess else guess - 1

/-- The decimal nearest to the value among the two neighbours on the grid of `10^s` that read
back. -/
def Binary.onGrid? (b : Binary) (s : Int) : Option Nat :=
  let (n, d) := b.ratio s
  let c := n / d
  match b.reads c s, b.reads (c + 1) s with
  | true, true =>
    if 2 * n < (2 * c + 1) * d then some c
    else if (2 * c + 1) * d < 2 * n then some (c + 1)
    else some (if c % 2 = 0 then c else c + 1)
  | true, false => some c
  | false, true => some (c + 1)
  | false, false => none

/-- The digits without the zeros at their end; `room` bounds how many are taken off. -/
def Digits.stripped : Nat → Digits → Digits
  | room + 1, d =>
    if d.digits ≠ 0 ∧ d.digits % 10 = 0 then stripped room ⟨d.digits / 10, d.exponent + 1⟩ else d
  | 0, d => d

/-- The shortest decimal that reads back as the positive double. -/
def Binary.shortest (b : Binary) : Digits :=
  let e := b.magnitude
  let hit := (List.range 17).findSome? fun (n : Nat) =>
    (b.onGrid? (e - n)).map fun c => (⟨c, e - n⟩ : Digits)
  (hit.getD ⟨b.significand, b.exponent⟩).stripped 18

/-- The shortest decimal that reads back as the absolute value of a double; zero for zero. -/
def shortest (f : Float) : Digits :=
  let b := Binary.ofFloat f
  if b.significand = 0 then ⟨0, 0⟩ else b.shortest

end Decimal
end ApparatusGraph
