/-
# Tokens of JSON text

`tokens` cuts a text into marks, words, numbers and strings and drops the white
space between them; it answers `none` where no token begins.

Two kinds of token can be well formed and yet stand for nothing: a number too large
for a double, and a string with half of a surrogate pair written as `\u` escapes.
They carry `none`, so that a reader may pass over them but not keep them.
-/

import ApparatusGraph.Json.Basic

namespace ApparatusGraph
namespace Json

/-- A token of JSON text. -/
inductive Token where
  | openList
  | closeList
  | openObject
  | closeObject
  | comma
  | colon
  | null
  | bool (b : Bool)
  | number (n : Option Number)
  | text (s : Option String)

/-- White space between tokens: blank, tab, line feed and carriage return. -/
def isSpace (c : Char) : Bool := c = ' ' || c = '\n' || c = '\t' || c = '\r'

/-- The number of a hexadecimal digit in either case. -/
def hexValue? (c : Char) : Option Nat :=
  if '0' ≤ c ∧ c ≤ '9' then some (c.toNat - '0'.toNat)
  else if 'a' ≤ c ∧ c ≤ 'f' then some (c.toNat - 'a'.toNat + 10)
  else if 'A' ≤ c ∧ c ≤ 'F' then some (c.toNat - 'A'.toNat + 10)
  else none

/-- A part of a string as it is written: a character, or a 16-bit unit given by its number. -/
inductive Piece where
  | char (c : Char)
  | unit (n : Nat)

/-- The character that a one-letter escape stands for. -/
def escaped? : Char → Option Char
  | '"' => some '"'
  | '\\' => some '\\'
  | '/' => some '/'
  | 'b' => some '\x08'
  | 'f' => some '\x0c'
  | 'n' => some '\n'
  | 'r' => some '\r'
  | 't' => some '\t'
  | _ => none

/-- The number of four hexadecimal digits. -/
def unit? (a b c d : Char) : Option Nat := do
  some (((16 * (← hexValue? a) + (← hexValue? b)) * 16 + (← hexValue? c)) * 16 + (← hexValue? d))

/-- The pieces up to the closing quote and what follows it. -/
def pieces : List Char → Option (List Piece × List Char)
  | [] => none
  | '"' :: rest => some ([], rest)
  | '\\' :: 'u' :: a :: b :: c :: d :: rest => do
    let n ← unit? a b c d
    let (ps, after) ← pieces rest
    some (.unit n :: ps, after)
  | '\\' :: e :: rest => do
    let c ← escaped? e
    let (ps, after) ← pieces rest
    some (.char c :: ps, after)
  | c :: rest =>
    if c.toNat < 0x20 then none
    else do
      let (ps, after) ← pieces rest
      some (.char c :: ps, after)

/-- The characters of the pieces: a high and a low surrogate in a row are one character, and
either alone is none. -/
def joinPieces : List Piece → Option (List Char)
  | [] => some []
  | .char c :: rest => (c :: ·) <$> joinPieces rest
  | .unit high :: .unit low :: rest =>
    if 0xD800 ≤ high ∧ high < 0xDC00 ∧ 0xDC00 ≤ low ∧ low < 0xE000 then
      (.ofNat (0x10000 + (high - 0xD800) * 0x400 + (low - 0xDC00)) :: ·) <$> joinPieces rest
    else if 0xD800 ≤ high ∧ high < 0xE000 then none
    else (.ofNat high :: ·) <$> joinPieces (.unit low :: rest)
  | .unit n :: rest =>
    if 0xD800 ≤ n ∧ n < 0xE000 then none else (.ofNat n :: ·) <$> joinPieces rest

/-- The string after an opening quote and what follows its closing quote. -/
def scanText (cs : List Char) : Option (Option String × List Char) := do
  let (ps, after) ← pieces cs
  some ((joinPieces ps).map .ofList, after)

/-- The digits of a whole part: a zero alone, or digits that do not begin with one. -/
def scanWhole : List Char → Option (List Char × List Char)
  | '0' :: rest => some (['0'], rest)
  | c :: rest =>
    if c.isDigit then some (c :: rest.takeWhile Char.isDigit, rest.dropWhile Char.isDigit) else none
  | [] => none

/-- The digits at the beginning, at least one. -/
def scanDigits (cs : List Char) : Option (List Char × List Char) :=
  match cs.takeWhile Char.isDigit with
  | [] => none
  | ds => some (ds, cs.dropWhile Char.isDigit)

/-- A point and the digits after it, if a point comes first. -/
def scanFraction : List Char → Option (Option (List Char) × List Char)
  | '.' :: rest => do
    let (ds, after) ← scanDigits rest
    some (some ds, after)
  | cs => some (none, cs)

/-- The sign of a power of ten, if there is one. -/
def scanSign : List Char → Bool × List Char
  | '+' :: rest => (false, rest)
  | '-' :: rest => (true, rest)
  | cs => (false, cs)

/-- A power of ten, if the letter for one comes first. -/
def scanPower : List Char → Option (Option Decimal.PowerText × List Char)
  | c :: rest =>
    if c = 'e' ∨ c = 'E' then do
      let (negative, rest) := scanSign rest
      let (ds, after) ← scanDigits rest
      some (some ⟨negative, ds⟩, after)
    else some (none, c :: rest)
  | [] => some (none, [])

/-- A numeral after its sign and what follows it. -/
def scanNumeral (negative : Bool) (cs : List Char) : Option (Decimal.Numeral × List Char) := do
  let (whole, rest) ← scanWhole cs
  let (fraction, rest) ← scanFraction rest
  let (power, rest) ← scanPower rest
  some (⟨negative, whole, fraction, power⟩, rest)

/-- The pieces of a text and its closing quote take characters. -/
theorem length_pieces {cs after : List Char} {ps : List Piece}
    (h : pieces cs = some (ps, after)) : after.length < cs.length := by
  fun_induction pieces cs generalizing ps after with
  | case1 => simp at h
  | case2 rest => grind
  | case3 a b c d rest ih =>
    simp only [Option.bind_eq_bind, Option.bind_eq_some_iff] at h
    obtain ⟨_, _, ⟨qs, r⟩, hr, h⟩ := h
    have := ih hr
    simp only [List.length_cons]
    grind
  | case4 e rest _ ih =>
    simp only [Option.bind_eq_bind, Option.bind_eq_some_iff] at h
    obtain ⟨_, _, ⟨qs, r⟩, hr, h⟩ := h
    have := ih hr
    grind
  | case5 => simp at h
  | case6 c rest _ _ _ _ ih =>
    simp only [Option.bind_eq_bind, Option.bind_eq_some_iff] at h
    obtain ⟨⟨qs, r⟩, hr, h⟩ := h
    have := ih hr
    grind

/-- A text takes characters. -/
theorem length_scanText {cs after : List Char} {s : Option String}
    (h : scanText cs = some (s, after)) : after.length < cs.length := by
  simp only [scanText, Option.bind_eq_bind, Option.bind_eq_some_iff] at h
  obtain ⟨⟨ps, r⟩, hr, h⟩ := h
  have := length_pieces hr
  grind

/-- Dropping characters leaves no more than there were. -/
theorem length_dropWhile_le (p : Char → Bool) (cs : List Char) :
    (cs.dropWhile p).length ≤ cs.length := (List.dropWhile_sublist p).length_le

/-- Digits leave no more characters than there were. -/
theorem length_scanDigits {cs after ds : List Char} (h : scanDigits cs = some (ds, after)) :
    after.length ≤ cs.length := by
  unfold scanDigits at h
  have := length_dropWhile_le Char.isDigit cs
  grind

/-- The whole part of a number takes characters. -/
theorem length_scanWhole {cs after ds : List Char} (h : scanWhole cs = some (ds, after)) :
    after.length < cs.length := by
  unfold scanWhole at h
  split at h
  · grind
  · rename_i c rest _
    have := length_dropWhile_le Char.isDigit rest
    grind
  · simp at h

/-- The fraction of a number leaves no more characters than there were. -/
theorem length_scanFraction {cs after : List Char} {ds : Option (List Char)}
    (h : scanFraction cs = some (ds, after)) : after.length ≤ cs.length := by
  unfold scanFraction at h
  split at h
  · simp only [Option.bind_eq_bind, Option.bind_eq_some_iff] at h
    obtain ⟨⟨ps, r⟩, hr, h⟩ := h
    have := length_scanDigits hr
    grind
  · grind

/-- A sign leaves no more characters than there were. -/
theorem length_scanSign (cs : List Char) : (scanSign cs).2.length ≤ cs.length := by
  unfold scanSign
  split <;> simp

/-- The power of a number leaves no more characters than there were. -/
theorem length_scanPower {cs after : List Char} {p : Option Decimal.PowerText}
    (h : scanPower cs = some (p, after)) : after.length ≤ cs.length := by
  unfold scanPower at h
  split at h
  · rename_i c rest
    split at h
    · simp only [Option.bind_eq_bind, Option.bind_eq_some_iff] at h
      obtain ⟨⟨ps, r⟩, hr, h⟩ := h
      have := length_scanDigits hr
      have := length_scanSign rest
      grind
    · grind
  · grind

/-- A number takes characters. -/
theorem length_scanNumeral {negative : Bool} {cs after : List Char} {n : Decimal.Numeral}
    (h : scanNumeral negative cs = some (n, after)) : after.length < cs.length := by
  simp only [scanNumeral, Option.bind_eq_bind, Option.bind_eq_some_iff] at h
  obtain ⟨⟨_, r₁⟩, h₁, ⟨_, r₂⟩, h₂, ⟨_, r₃⟩, h₃, h⟩ := h
  have := length_scanWhole h₁
  have := length_scanFraction h₂
  have := length_scanPower h₃
  grind

/-- The tokens of a text; none where no token begins. -/
def tokens (cs : List Char) : Option (List Token) :=
  match cs with
  | [] => some []
  | '[' :: rest => (.openList :: ·) <$> tokens rest
  | ']' :: rest => (.closeList :: ·) <$> tokens rest
  | '\x7b' :: rest => (.openObject :: ·) <$> tokens rest
  | '\x7d' :: rest => (.closeObject :: ·) <$> tokens rest
  | ',' :: rest => (.comma :: ·) <$> tokens rest
  | ':' :: rest => (.colon :: ·) <$> tokens rest
  | 'n' :: 'u' :: 'l' :: 'l' :: rest => (.null :: ·) <$> tokens rest
  | 't' :: 'r' :: 'u' :: 'e' :: rest => (.bool true :: ·) <$> tokens rest
  | 'f' :: 'a' :: 'l' :: 's' :: 'e' :: rest => (.bool false :: ·) <$> tokens rest
  | '"' :: rest =>
    match _h : scanText rest with
    | some (s, after) => (.text s :: ·) <$> tokens after
    | none => none
  | '-' :: rest =>
    match _h : scanNumeral true rest with
    | some (n, after) => (.number (Number.ofNumeral? n) :: ·) <$> tokens after
    | none => none
  | c :: rest =>
    if isSpace c then tokens rest
    else
      match _h : scanNumeral false (c :: rest) with
      | some (n, after) => (.number (Number.ofNumeral? n) :: ·) <$> tokens after
      | none => none
termination_by cs.length
decreasing_by
  all_goals first
    | (simp; done)
    | (simp; omega)
    | (have bound := length_scanText _h; simp; omega)
    | (have bound := length_scanNumeral _h; simp at bound ⊢; omega)

end Json
end ApparatusGraph
