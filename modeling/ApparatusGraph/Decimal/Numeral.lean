/-
# Decimal numerals and the double they stand for

A numeral is a sign, digits before and after the point, and a power of ten.  Its
double is found in two roundings: the leading digits that fit in 64 bits become an
integer, that integer becomes a double, and one multiplication or division by a
power of ten places the point (below `10^-308` in several divisions).  Digits past
those are dropped and only move the point.  A numeral too large for a double has
none.
-/

namespace ApparatusGraph
namespace Decimal

/-- A power of ten as it is written: its sign and its digits. -/
structure PowerText where
  negative : Bool
  digits : List Char
  deriving DecidableEq

/-- A decimal numeral as it is written. -/
structure Numeral where
  negative : Bool
  whole : List Char
  fraction : Option (List Char)
  power : Option PowerText
  deriving DecidableEq

/-- The number that a digit stands for. -/
def digitValue (c : Char) : Nat := c.toNat - '0'.toNat

/-- The number that a row of digits stands for. -/
def digitsValue (cs : List Char) : Nat := cs.foldl (fun n c => 10 * n + digitValue c) 0

/-- Appends digits to `n` while the result fits in 64 bits; gives the digits left over. -/
def absorb (n : Nat) : List Char → Nat × List Char
  | [] => (n, [])
  | c :: rest =>
    if 10 * n + digitValue c < 0x10000000000000000 then absorb (10 * n + digitValue c) rest else (n, c :: rest)

/-- The greatest power of ten that is a double. -/
def topPower : Nat := 308

/-- The double `10^n` for `n` up to `topPower`. -/
def powerOfTen (n : Nat) : Float := .ofScientific 1 false n

/-- The double for `f · 10^e`; none when it is too large. -/
def scale (f : Float) (e : Int) : Option Float :=
  if e.natAbs ≤ topPower then
    if 0 ≤ e then
      let product := f * powerOfTen e.toNat
      if product.isInf then none else some product
    else some (f / powerOfTen e.natAbs)
  else if f == 0 then some f
  else if 0 ≤ e then none
  else scale (f / powerOfTen topPower) (e + topPower)
termination_by (-e).toNat
decreasing_by simp only [topPower] at *; omega

/-- The power of ten a numeral names, within 32 bits; none when its digits exceed them. -/
def PowerText.value (p : PowerText) : Option Int :=
  let n := digitsValue p.digits
  if n < 0x80000000 then some (if p.negative then -n else n) else none

/-- Gives a double the sign of the numeral. -/
def Numeral.signed (n : Numeral) (f : Float) : Float := if n.negative then -f else f

/-- The double of a numeral; none when it is too large. -/
def Numeral.toFloat? (n : Numeral) : Option Float :=
  let (lead, dropped) := absorb 0 n.whole
  let fraction := n.fraction.getD []
  let (lead, unused) := absorb lead fraction
  let point : Int := dropped.length - (fraction.length - unused.length : Nat)
  match n.power with
  | none => (scale (.ofNat lead) point).map n.signed
  | some p =>
    match p.value with
    | some e => (scale (.ofNat lead) (max (-0x80000000) (min (0x7FFFFFFF) (point + e)))).map n.signed
    | none => if lead ≠ 0 ∧ p.negative = false then none else some (n.signed 0)

/-- The integer of a numeral without point and power. -/
def Numeral.toInt? (n : Numeral) : Option Int :=
  match n.fraction, n.power with
  | none, none => some (if n.negative then -digitsValue n.whole else digitsValue n.whole)
  | _, _ => none

end Decimal
end ApparatusGraph
