/-
# Scalars of TOML

A scalar is written as one word: a flag, a whole number, a double, or a moment (a
day, a time of day, or both with or without an offset).  `Scalar.ofWord?` takes a
whole word and answers `none` for what is no scalar.

| scalar | words |
| --- | --- |
| flag | `true`, `false` |
| integer | `+12`, `1_000`, `0xff`, `0o17`, `0b101`, in 64 bits with a sign |
| double | `1.5`, `2e9`, `-inf`, `nan` |
| moment | `1979-05-27`, `07:32:00.5`, `1979-05-27T07:32:00Z` |

Digits may be grouped with single underscores between them.  A whole number written
in tens begins with no needless zero.
-/

import ApparatusGraph.Calendar
import ApparatusGraph.Decimal.Numeral
import ApparatusGraph.Json.Token

namespace ApparatusGraph
namespace Toml

/-- A value that is written as one word. -/
inductive Scalar where
  | flag (b : Bool)
  | integer (i : Int64)
  | double (word : List Char)
  | moment (word : List Char)

/-! ## Numbers -/

/-- The digits of a row in which single underscores may stand between digits. -/
def digits? (isDigit : Char → Bool) : List Char → Option (List Char)
  | [] => none
  | [c] => if isDigit c then some [c] else none
  | c :: '_' :: rest => if isDigit c then (c :: ·) <$> digits? isDigit rest else none
  | c :: rest => if isDigit c then (c :: ·) <$> digits? isDigit rest else none

/-- The digits of a whole number in tens: a zero alone, or digits that do not begin with one. -/
def whole? (cs : List Char) : Option (List Char) :=
  match digits? Char.isDigit cs with
  | some ('0' :: _ :: _) => none
  | ds => ds

/-- A sign, true for minus, and what follows it. -/
def splitSign : List Char → Bool × List Char
  | '+' :: rest => (false, rest)
  | '-' :: rest => (true, rest)
  | cs => (false, cs)

/-- The number of a row of digits of a base below sixteen, or sixteen. -/
def radixValue? (base : Nat) (cs : List Char) : Option Nat := do
  let isDigit (c : Char) : Bool := (Json.hexValue? c).any (· < base)
  let ds ← digits? isDigit cs
  some (ds.foldl (fun n c => base * n + (Json.hexValue? c).getD 0) 0)

/-- The integer of a word, of any size. -/
def integerValue? : List Char → Option Int
  | '0' :: 'x' :: ds => (Int.ofNat ·) <$> radixValue? 16 ds
  | '0' :: 'o' :: ds => (Int.ofNat ·) <$> radixValue? 8 ds
  | '0' :: 'b' :: ds => (Int.ofNat ·) <$> radixValue? 2 ds
  | cs => do
    let (negative, cs) := splitSign cs
    let n := Decimal.digitsValue (← whole? cs)
    some (if negative then -n else n)

/-- The integer of a word, in 64 bits with a sign. -/
def integer? (cs : List Char) : Option Int64 := do
  let i ← integerValue? cs
  if -0x8000000000000000 ≤ i ∧ i < 0x8000000000000000 then some (.ofInt i) else none

/-- True of the letters that come before a power of ten. -/
def isPowerMark (c : Char) : Bool := c = 'e' || c = 'E'

/-- True when `n · 10^e` is so large that the nearest double is infinite. -/
def exceedsDoubles (n : Nat) (e : Int) : Bool :=
  let magnitude : Int := (Nat.toDigits 10 n).length + e
  if n = 0 ∨ magnitude < 300 then false
  else if 320 < magnitude then true
  else decide ((Nat.pow 2 1024 - Nat.pow 2 970) * Nat.pow 10 (-e).toNat ≤ n * Nat.pow 10 e.toNat)

/-- The fraction and the power of ten after the digits of a whole part: the digits after the point
and the power, or none when neither is there or one is ill formed. -/
def fractionAndPower? (cs : List Char) : Option (List Char × Int) := do
  let (fraction, power) ← match cs with
    | '.' :: rest => do
      let ds ← digits? Char.isDigit (rest.takeWhile (!isPowerMark ·))
      some (ds, rest.dropWhile (!isPowerMark ·))
    | _ => some ([], cs)
  match power with
  | [] => if fraction.isEmpty then none else some (fraction, 0)
  | mark :: rest =>
    if isPowerMark mark then
      let (negative, rest) := splitSign rest
      let n := Decimal.digitsValue (← digits? Char.isDigit rest)
      some (fraction, if negative then -n else n)
    else none

/-- True of the words for doubles.  A positive number too large for a double is none; a negative one
stands for minus infinity. -/
def isDouble (cs : List Char) : Bool :=
  let (negative, cs) := splitSign cs
  if cs = ['i', 'n', 'f'] ∨ cs = ['n', 'a', 'n'] then true
  else
    let stops (c : Char) : Bool := c = '.' || isPowerMark c
    match whole? (cs.takeWhile (!stops ·)), fractionAndPower? (cs.dropWhile (!stops ·)) with
    | some whole, some (fraction, power) =>
      negative || !exceedsDoubles (Decimal.digitsValue (whole ++ fraction)) (power - fraction.length)
    | _, _ => false

/-! ## Moments -/

/-- True of the words for days of the calendar. -/
def isDay : List Char → Bool
  | [y₁, y₂, y₃, y₄, '-', m₁, m₂, '-', d₁, d₂] =>
    let month := Decimal.digitsValue [m₁, m₂]
    let day := Decimal.digitsValue [d₁, d₂]
    [y₁, y₂, y₃, y₄, m₁, m₂, d₁, d₂].all Char.isDigit && 1 ≤ month && month ≤ 12 && 1 ≤ day &&
      day ≤ Calendar.daysIn (Decimal.digitsValue [y₁, y₂, y₃, y₄]) month
  | _ => false

/-- True of two digits whose number is at most `most`. -/
def isPair (most : Nat) (a b : Char) : Bool :=
  a.isDigit && b.isDigit && Decimal.digitsValue [a, b] ≤ most

/-- True of nothing, and of a point with digits after it. -/
def isFraction : List Char → Bool
  | [] => true
  | '.' :: ds => !ds.isEmpty && ds.all Char.isDigit
  | _ => false

/-- True of the words for times of day; the second may be a leap second. -/
def isClock : List Char → Bool
  | h₁ :: h₂ :: ':' :: m₁ :: m₂ :: ':' :: s₁ :: s₂ :: rest =>
    isPair 23 h₁ h₂ && isPair 59 m₁ m₂ && isPair 60 s₁ s₂ && isFraction rest
  | _ => false

/-- True of nothing, and of the words for distances from universal time. -/
def isOffset : List Char → Bool
  | [] => true
  | ['Z'] => true
  | ['z'] => true
  | [sign, h₁, h₂, ':', m₁, m₂] => (sign = '+' || sign = '-') && isPair 23 h₁ h₂ && isPair 59 m₁ m₂
  | _ => false

/-- True of the words for moments. -/
def isMoment (cs : List Char) : Bool :=
  let inClock (c : Char) : Bool := c.isDigit || c = ':' || c = '.'
  isDay cs || isClock cs ||
    match cs.drop 10 with
    | mark :: rest =>
      isDay (cs.take 10) && (mark = 'T' || mark = 't' || mark = ' ') &&
        isClock (rest.takeWhile inClock) && isOffset (rest.dropWhile inClock)
    | [] => false

/-- The scalar of a word. -/
def Scalar.ofWord? (cs : List Char) : Option Scalar :=
  if cs = ['t', 'r', 'u', 'e'] then some (.flag true)
  else if cs = ['f', 'a', 'l', 's', 'e'] then some (.flag false)
  else
    match integer? cs with
    | some i => some (.integer i)
    | none =>
      if isDouble cs then some (.double cs)
      else if isMoment cs then some (.moment cs)
      else none

end Toml
end ApparatusGraph
