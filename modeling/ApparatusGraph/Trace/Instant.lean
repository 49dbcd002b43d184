/-
# Instants

An instant is a second counted from the beginning of 1970 in universal time, and
nanoseconds within it; a leap second is written as more than a second's worth of
nanoseconds in the second before it.

Instants are written as RFC 3339 asks, in universal time, with the fewest groups of
three fraction digits that are exact.  The reader takes any offset, a blank or a
small letter for the `T`, and blanks between the parts.
-/

import ApparatusGraph.Text.Blank
import ApparatusGraph.Calendar
import ApparatusGraph.Decimal.Numeral

namespace ApparatusGraph

/-- A moment in universal time. -/
structure Instant where
  /-- whole seconds since the beginning of 1970 -/
  seconds : Int
  /-- nanoseconds in that second; from a thousand million on, those of a leap second after it -/
  nanos : Nat
  deriving DecidableEq

namespace Instant

/-! ## Writing -/

/-- A number with zeros before it up to a width. -/
def padded (width n : Nat) : String :=
  let digits := toString n
  .ofList (List.replicate (width - digits.length) '0') ++ digits

/-- The fraction of a second, in groups of three digits. -/
def fraction (nanos : Nat) : String :=
  if nanos = 0 then ""
  else if nanos % 1000000 = 0 then "." ++ padded 3 (nanos / 1000000)
  else if nanos % 1000 = 0 then "." ++ padded 6 (nanos / 1000)
  else "." ++ padded 9 nanos

/-- The year: four digits, or a sign and at least four outside of those. -/
def yearText (year : Int) : String :=
  if 0 ≤ year ∧ year ≤ 9999 then padded 4 year.toNat
  else (if year < 0 then "-" else "+") ++ padded 4 year.natAbs

/-- The instant as RFC 3339 writes it. -/
def write (t : Instant) : String :=
  let days := t.seconds.fdiv 86400
  let second := (t.seconds - days * 86400).toNat
  let (year, month, day) := Calendar.civilOf days
  let (extra, nanos) := if t.nanos < 1000000000 then (0, t.nanos) else (1, t.nanos - 1000000000)
  yearText year ++ "-" ++ padded 2 month ++ "-" ++ padded 2 day ++ "T" ++
    padded 2 (second / 3600) ++ ":" ++ padded 2 (second / 60 % 60) ++ ":" ++
    padded 2 (second % 60 + extra) ++ fraction nanos ++ "Z"

/-! ## Reading -/

/-- Why a text is no instant. -/
inductive Flaw where
  | tooShort
  | tooLong
  | invalid
  | outOfRange
  | impossible
  deriving DecidableEq

/-- The wording of a flaw. -/
def Flaw.message : Flaw → String
  | tooShort => "premature end of input"
  | tooLong => "trailing input"
  | invalid => "input contains invalid characters"
  | outOfRange => "input is out of range"
  | impossible => "no possible date and time matching input"

/-- What a part of an instant is read from. -/
abbrev Scan (α : Type) := List Char → Except Flaw (α × List Char)

/-- Reads up to `most` digits, at least one. -/
def number (most : Nat) : Scan Nat := fun cs =>
  match (cs.take most).takeWhile Char.isDigit with
  | [] => .error (if cs.isEmpty then .tooShort else .invalid)
  | ds =>
    let n := Decimal.digitsValue ds
    if n < 0x8000000000000000 then .ok (n, cs.drop ds.length) else .error .outOfRange

/-- Reads a number of at most two digits between two bounds, blanks before it skipped. -/
def twoDigits (low high : Nat) : Scan Nat := fun cs => do
  let (n, rest) ← number 2 (Text.trimStart cs)
  if low ≤ n ∧ n ≤ high then .ok (n, rest) else .error .outOfRange

/-- Reads a year: up to four digits, or a sign and any number of them. -/
def year : Scan Int := fun cs => do
  let (y, rest) ← match Text.trimStart cs with
    | '-' :: digits => do
      let (n, rest) ← number digits.length digits
      .ok (-(n : Int), rest)
    | '+' :: digits => do
      let (n, rest) ← number digits.length digits
      .ok ((n : Int), rest)
    | digits => do
      let (n, rest) ← number 4 digits
      .ok ((n : Int), rest)
  if -0x80000000 ≤ y ∧ y < 0x80000000 then .ok (y, rest) else .error .outOfRange

/-- Reads a mark, blanks before it skipped. -/
def mark (c : Char) : Scan Unit := fun cs =>
  match Text.trimStart cs with
  | [] => .error .tooShort
  | d :: rest => if d = c then .ok ((), rest) else .error .invalid

/-- Reads what separates the day from the time. -/
def separator : Scan Unit
  | [] => .error .tooShort
  | c :: rest => if c = 'T' ∨ c = 't' ∨ c = ' ' then .ok ((), rest) else .error .invalid

/-- Reads a point and the fraction of a second, in nanoseconds; digits past the ninth are
dropped. -/
def nanosecond : Scan Nat
  | '.' :: cs => do
    let (n, rest) ← number 9 cs
    .ok (n * Nat.pow 10 (9 - (cs.length - rest.length)), rest.dropWhile Char.isDigit)
  | cs => .ok (0, cs)

/-- Two characters in a row as they come.  A text of less than two bytes ends too early; a single
character of several bytes is none that may stand here. -/
def pair (cs : List Char) : Except Flaw (Char × Char × List Char) :=
  match cs with
  | a :: b :: rest => .ok (a, b, rest)
  | [a] => .error (if a.utf8Size < 2 then .tooShort else .invalid)
  | [] => .error .tooShort

/-- Reads the hours and minutes of an offset after its sign, in seconds. -/
def offsetSize : Scan Int := fun cs => do
  let (a, b, rest) ← pair cs
  if !(a.isDigit && b.isDigit) then .error .invalid
  let hours := 10 * Decimal.digitValue a + Decimal.digitValue b
  let (c, d, rest) ← pair (rest.dropWhile fun c => c = ':' || Text.isBlank c)
  if !(c.isDigit && d.isDigit) then .error .invalid
  let minutes := 10 * Decimal.digitValue c + Decimal.digitValue d
  if 60 ≤ minutes then .error .outOfRange
  .ok (hours * 3600 + minutes * 60, rest)

/-- Reads the distance from universal time, in seconds. -/
def offset : Scan Int := fun cs =>
  match cs with
  | [] => .error .tooShort
  | c :: rest =>
    if (cs.take 3).map Char.toUpper = ['U', 'T', 'C'] then .ok (0, cs.drop 3)
    else if c = 'Z' ∨ c = 'z' then .ok (0, rest)
    else if c = '+' then offsetSize rest
    else if c = '-' ∨ c = '−' then do
      let (n, rest) ← offsetSize rest
      .ok (-n, rest)
    else .error .invalid

/-- The years that can be told. -/
def yearInRange (year : Int) : Bool := -262143 ≤ year && year ≤ 262142

/-- Reads an instant. -/
def read (s : String) : Except Flaw Instant := do
  let (y, cs) ← year s.toList
  let ((), cs) ← mark '-' cs
  let (month, cs) ← twoDigits 1 12 cs
  let ((), cs) ← mark '-' cs
  let (day, cs) ← twoDigits 1 31 cs
  let ((), cs) ← separator cs
  let (hour, cs) ← twoDigits 0 23 cs
  let ((), cs) ← mark ':' cs
  let (minute, cs) ← twoDigits 0 59 cs
  let ((), cs) ← mark ':' cs
  let (second, cs) ← twoDigits 0 60 cs
  let (nanos, cs) ← nanosecond cs
  let (shift, cs) ← offset (Text.trimStart cs)
  if !(Text.trimStart cs).isEmpty then .error .tooLong
  if !yearInRange y || Calendar.daysIn y month < day then .error .outOfRange
  if 86400 ≤ shift.natAbs then .error .outOfRange
  let (second, nanos) := if second = 60 then (59, nanos + 1000000000) else (second, nanos)
  let wall := Calendar.daysOf y month day * 86400 + (hour * 3600 + minute * 60 + second : Nat)
  let seconds := wall - shift
  if yearInRange (Calendar.civilOf (seconds.fdiv 86400)).1 then .ok ⟨seconds, nanos⟩
  else .error .impossible

/-! ## Differences -/

/-- The time from `start` to `t` in nanoseconds; a leap second between them counts. -/
def nanosSince (t start : Instant) : Int :=
  let ofDay (u : Instant) : Int := u.seconds - u.seconds.fdiv 86400 * 86400
  let leap : Int :=
    if ofDay start < ofDay t then (if 1000000000 ≤ start.nanos then 1 else 0)
    else if ofDay t < ofDay start then (if 1000000000 ≤ t.nanos then -1 else 0)
    else 0
  (t.seconds - start.seconds + leap) * 1000000000 + ((t.nanos : Int) - start.nanos)

/-- The time from `start` to `t` in whole microseconds, rounded toward zero; zero when it does not
fit in 64 bits. -/
def microsSince (t start : Instant) : Int :=
  let micros := (t.nanosSince start).tdiv 1000
  if -0x8000000000000000 ≤ micros ∧ micros < 0x8000000000000000 then micros else 0

/-- The instant a number of milliseconds after the beginning of 1970. -/
def ofMillis (ms : Nat) : Instant := ⟨ms / 1000, ms % 1000 * 1000000⟩

end Instant
end ApparatusGraph
