/-
# Writing JSON

`Json.write` writes a value in a layout.  `Layout.compact` puts nothing between
tokens; `Layout.spread` puts every item and member on a line of its own, indented
by two blanks for each container around it, with a blank after the colon.  An
empty list or object is written without a break in either.

Strings are quoted with the short escapes for `" \`, backspace, form feed, line
feed, carriage return and tab, and `\u00xx` for the other characters below the
blank.  Doubles are written with the fewest digits that read back.
-/

import ApparatusGraph.Json.Basic
import ApparatusGraph.Decimal.Shortest

namespace ApparatusGraph

/-- How a double is written around its digits. -/
structure FloatStyle where
  /-- the least exponent of ten that is written positionally -/
  low : Int
  /-- the greatest exponent of ten that is written positionally -/
  high : Int

namespace FloatStyle

/-- Doubles in JSON: positional from `10^-5` to below `10^16`, with a power of ten otherwise. -/
def json : FloatStyle := ⟨-5, 15⟩

/-- The digits with the point after the first `whole` of them, zeros filling both sides. -/
def positional (ds : List Char) (whole : Int) : List Char :=
  if whole ≤ 0 then '0' :: '.' :: (List.replicate whole.natAbs '0' ++ ds)
  else
    let whole := whole.toNat
    let fraction := ds.drop whole
    ds.take whole ++ List.replicate (whole - ds.length) '0' ++
      '.' :: (if fraction.isEmpty then ['0'] else fraction)

/-- The digits with the point after the first and the power of ten with its sign. -/
def scientific (ds : List Char) (e : Int) : List Char :=
  let mantissa := match ds with
    | d :: rest@(_ :: _) => d :: '.' :: rest
    | ds => ds
  mantissa ++ 'e' :: (if e < 0 then '-' else '+') :: Nat.toDigits 10 e.natAbs

/-- The text of a double that is not a number or is infinite is empty of digits: `null`. -/
def write (style : FloatStyle) (f : Float) : List Char :=
  if f.isNaN || f.isInf then ['n', 'u', 'l', 'l']
  else
    let d := Decimal.shortest f
    let ds := Nat.toDigits 10 d.digits
    let e : Int := d.exponent + ds.length - 1
    let sign := if f.toBits.toNat < 0x8000000000000000 then [] else ['-']
    sign ++ if style.low ≤ e ∧ e ≤ style.high then positional ds (e + 1) else scientific ds e

end FloatStyle

/-- The decimal text of an integer. -/
def intChars (i : Int) : List Char :=
  if i < 0 then '-' :: Nat.toDigits 10 i.natAbs else Nat.toDigits 10 i.natAbs

/-- The text of a JSON number. -/
def Number.write : Number → List Char
  | .int i _ => intChars i
  | .float f => FloatStyle.json.write f

namespace Json

/-- A character as it stands in a JSON string. -/
def escape (c : Char) : List Char :=
  match c with
  | '"' => ['\\', '"']
  | '\\' => ['\\', '\\']
  | '\x08' => ['\\', 'b']
  | '\x0c' => ['\\', 'f']
  | '\n' => ['\\', 'n']
  | '\r' => ['\\', 'r']
  | '\t' => ['\\', 't']
  | c =>
    if c.toNat < 0x20 then
      ['\\', 'u', '0', '0', Nat.digitChar (c.toNat / 16), Nat.digitChar (c.toNat % 16)]
    else [c]

/-- A JSON string. -/
def quote (s : String) : List Char := '"' :: (s.toList.flatMap escape ++ ['"'])

/-- What stands between the tokens of a container. -/
structure Layout where
  /-- before an item, and before the closing mark, at a depth -/
  lineBreak : Nat → List Char
  /-- after a colon -/
  gap : List Char

/-- Nothing between tokens. -/
def Layout.compact : Layout := ⟨fun _ => [], []⟩

/-- Each part on its own line, two blanks of indent for each container around it. -/
def Layout.spread : Layout := ⟨fun depth => '\n' :: List.replicate (2 * depth) ' ', [' ']⟩

mutual

/-- The text of a value that stands inside `depth` containers. -/
def write (l : Layout) (depth : Nat) : Json → List Char
  | .null => ['n', 'u', 'l', 'l']
  | .bool true => ['t', 'r', 'u', 'e']
  | .bool false => ['f', 'a', 'l', 's', 'e']
  | .number n => n.write
  | .text s => quote s
  | .list [] => ['[', ']']
  | .list (item :: rest) =>
    '[' :: (l.lineBreak (depth + 1) ++ write l (depth + 1) item ++ writeItems l (depth + 1) rest ++
      l.lineBreak depth ++ [']'])
  | .object [] => ['\x7b', '\x7d']
  | .object ((name, value) :: rest) =>
    '\x7b' :: (l.lineBreak (depth + 1) ++ quote name ++ ':' :: l.gap ++ write l (depth + 1) value ++
      writeMembers l (depth + 1) rest ++ l.lineBreak depth ++ ['\x7d'])

/-- The items after the first, each after a comma. -/
def writeItems (l : Layout) (depth : Nat) : List Json → List Char
  | [] => []
  | item :: rest => ',' :: (l.lineBreak depth ++ write l depth item ++ writeItems l depth rest)

/-- The members after the first, each after a comma. -/
def writeMembers (l : Layout) (depth : Nat) : List (String × Json) → List Char
  | [] => []
  | (name, value) :: rest =>
    ',' :: (l.lineBreak depth ++ quote name ++ ':' :: l.gap ++ write l depth value ++
      writeMembers l depth rest)

end

/-- The text of a value with nothing between tokens. -/
def compact (json : Json) : String := .ofList (json.write .compact 0)

/-- The text of a value with each part on its own line. -/
def pretty (json : Json) : String := .ofList (json.write .spread 0)

end Json
end ApparatusGraph
