/-
# Tokens of TOML text

`Toml.tokens` cuts a text into marks, blanks, line ends, words and strings, and drops
comments; it answers `none` where no token begins.

A word is the longest row of characters that bare keys and scalars are made of, so
what a word means is decided by where it stands.  A day, one blank and a time of day
are one word.  A string on one line carries its text, since it may be a key; of a
string in three quotes only that it is well formed is kept.
-/

import ApparatusGraph.Toml.Scalar

namespace ApparatusGraph
namespace Toml

/-- A token of TOML text. -/
inductive Token where
  | openList
  | closeList
  | openTable
  | closeTable
  | comma
  | equals
  /-- a blank or a tab -/
  | space
  | lineEnd
  | word (cs : List Char)
  | text (s : String)
  /-- a string in three quotes -/
  | block

/-- True of the characters that may stand in a comment or a string on one line. -/
def isPlain (c : Char) : Bool := c = '\t' || (0x20 ≤ c.toNat && c.toNat ≠ 0x7F)

/-- True of the characters that bare keys and scalars are made of. -/
def isWordChar (c : Char) : Bool :=
  c.isAlphanum || c = '+' || c = '-' || c = '_' || c = '.' || c = ':'

/-- The word at the beginning and what follows it. -/
def scanWord (cs : List Char) : List Char × List Char :=
  let word := cs.takeWhile isWordChar
  match cs.dropWhile isWordChar with
  | ' ' :: d :: rest =>
    if isDay word ∧ d.isDigit then
      (word ++ ' ' :: d :: rest.takeWhile isWordChar, rest.dropWhile isWordChar)
    else (word, ' ' :: d :: rest)
  | rest => (word, rest)

/-- The character that a one-letter escape stands for. -/
def escaped? : Char → Option Char
  | 'b' => some '\x08'
  | 't' => some '\t'
  | 'n' => some '\n'
  | 'f' => some '\x0c'
  | 'r' => some '\r'
  | '"' => some '"'
  | '\\' => some '\\'
  | _ => none

/-- The character of a number, if it has one. -/
def charOf? (n : Nat) : Option Char := if n.isValidChar then some (.ofNat n) else none

/-- The text up to the closing double quote and what follows it. -/
def basicText : List Char → Option (List Char × List Char)
  | [] => none
  | '"' :: rest => some ([], rest)
  | '\\' :: 'u' :: a :: b :: c :: d :: rest => do
    let e ← charOf? (← Json.unit? a b c d)
    let (s, after) ← basicText rest
    some (e :: s, after)
  | '\\' :: 'U' :: a :: b :: c :: d :: e :: f :: g :: h :: rest => do
    let e ← charOf? (0x10000 * (← Json.unit? a b c d) + (← Json.unit? e f g h))
    let (s, after) ← basicText rest
    some (e :: s, after)
  | '\\' :: e :: rest => do
    let c ← escaped? e
    let (s, after) ← basicText rest
    some (c :: s, after)
  | c :: rest =>
    if isPlain c then do
      let (s, after) ← basicText rest
      some (c :: s, after)
    else none

/-- The text up to the closing single quote and what follows it. -/
def literalText : List Char → Option (List Char × List Char)
  | [] => none
  | '\'' :: rest => some ([], rest)
  | c :: rest =>
    if isPlain c then do
      let (s, after) ← literalText rest
      some (c :: s, after)
    else none

/-- Where in a string in three quotes the reading is. -/
inductive Place where
  /-- after this number of quotes in a row -/
  | content (quotes : Nat)
  /-- after a carriage return, before its line feed -/
  | carriage
  | escape
  /-- in the digits of an escape: how many are left, and the number so far -/
  | digits (left value : Nat)
  /-- after a backslash and blanks, before the end of the line -/
  | fold
  /-- the same after a carriage return -/
  | foldCarriage

namespace Place

/-- True when the string may end here: after three quotes, or four or five of which the first ones
are text. -/
def closes : Place → Bool
  | content quotes => 3 ≤ quotes && quotes ≤ 5
  | _ => false

/-- The place after a character of a string between `quote`s in which backslashes escape or not. -/
def next (quote : Char) (escapes : Bool) (c : Char) : Place → Option Place
  | content quotes =>
    if c = quote then (if quotes < 5 then some (content (quotes + 1)) else none)
    else if escapes ∧ c = '\\' then some escape
    else if c = '\n' then some (content 0)
    else if c = '\r' then some carriage
    else if isPlain c then some (content 0)
    else none
  | carriage => if c = '\n' then some (content 0) else none
  | escape =>
    if c = 'u' then some (digits 4 0)
    else if c = 'U' then some (digits 8 0)
    else if c = ' ' ∨ c = '\t' then some fold
    else if c = '\n' then some (content 0)
    else if c = '\r' then some carriage
    else (escaped? c).map fun _ => content 0
  | digits left value => do
    let value := 16 * value + (← Json.hexValue? c)
    if left ≤ 1 then (charOf? value).map fun _ => content 0 else some (digits (left - 1) value)
  | fold =>
    if c = ' ' ∨ c = '\t' then some fold
    else if c = '\n' then some (content 0)
    else if c = '\r' then some foldCarriage
    else none
  | foldCarriage => if c = '\n' then some (content 0) else none

end Place

/-- What follows a string in three quotes, from a place in it. -/
def afterBlock (quote : Char) (escapes : Bool) (place : Place) : List Char → Option (List Char)
  | [] => if place.closes then some [] else none
  | c :: rest =>
    if place.closes ∧ c ≠ quote then some (c :: rest)
    else do
      let place ← place.next quote escapes c
      afterBlock quote escapes place rest

/-- A text between double quotes takes characters. -/
theorem length_basicText {cs s after : List Char} (h : basicText cs = some (s, after)) :
    after.length < cs.length := by
  fun_induction basicText cs generalizing s after with
  | case1 => simp at h
  | case2 rest => grind
  | case3 a b c d rest ih =>
    simp only [Option.bind_eq_bind, Option.bind_eq_some_iff] at h
    obtain ⟨_, _, _, _, ⟨_, _⟩, hr, h⟩ := h
    have := ih hr
    simp only [List.length_cons]
    grind
  | case4 a b c d e f g h' rest ih =>
    simp only [Option.bind_eq_bind, Option.bind_eq_some_iff] at h
    obtain ⟨_, _, _, _, _, _, ⟨_, _⟩, hr, h⟩ := h
    have := ih hr
    simp only [List.length_cons]
    grind
  | case5 e rest _ _ ih =>
    simp only [Option.bind_eq_bind, Option.bind_eq_some_iff] at h
    obtain ⟨_, _, ⟨_, _⟩, hr, h⟩ := h
    have := ih hr
    grind
  | case6 c rest _ _ _ _ _ ih =>
    simp only [Option.bind_eq_bind, Option.bind_eq_some_iff] at h
    obtain ⟨⟨_, _⟩, hr, h⟩ := h
    have := ih hr
    grind
  | case7 => simp at h

/-- A text between single quotes takes characters. -/
theorem length_literalText {cs s after : List Char} (h : literalText cs = some (s, after)) :
    after.length < cs.length := by
  fun_induction literalText cs generalizing s after with
  | case1 => simp at h
  | case2 rest => grind
  | case3 c rest _ _ ih =>
    simp only [Option.bind_eq_bind, Option.bind_eq_some_iff] at h
    obtain ⟨⟨_, _⟩, hr, h⟩ := h
    have := ih hr
    grind
  | case4 => simp at h

/-- The end of a block leaves no more characters than there were. -/
theorem length_afterBlock {quote : Char} {escapes : Bool} {cs after : List Char} :
    {place : Place} → afterBlock quote escapes place cs = some after →
      after.length ≤ cs.length := by
  induction cs with
  | nil => grind [afterBlock]
  | cons c rest ih =>
    intro place h
    unfold afterBlock at h
    split at h
    · grind
    · simp only [Option.bind_eq_bind, Option.bind_eq_some_iff] at h
      obtain ⟨_, _, h⟩ := h
      have := ih h
      grind

/-- A word takes characters. -/
theorem length_scanWord {c : Char} (hc : isWordChar c = true) (cs : List Char) :
    (scanWord (c :: cs)).2.length < (c :: cs).length := by
  have h := (List.dropWhile_sublist isWordChar (l := cs)).length_le
  unfold scanWord
  simp only [List.dropWhile_cons, hc, ↓reduceIte, List.length_cons]
  split
  · rename_i d rest heq
    have h' := (List.dropWhile_sublist isWordChar (l := rest)).length_le
    rw [heq] at h
    simp only [List.length_cons] at h
    split <;> simp <;> omega
  · grind

/-- The tokens of a text; none where no token begins. -/
def tokens (cs : List Char) : Option (List Token) :=
  match cs with
  | [] => some []
  | '[' :: rest => (.openList :: ·) <$> tokens rest
  | ']' :: rest => (.closeList :: ·) <$> tokens rest
  | '\x7b' :: rest => (.openTable :: ·) <$> tokens rest
  | '\x7d' :: rest => (.closeTable :: ·) <$> tokens rest
  | ',' :: rest => (.comma :: ·) <$> tokens rest
  | '=' :: rest => (.equals :: ·) <$> tokens rest
  | ' ' :: rest => (.space :: ·) <$> tokens rest
  | '\t' :: rest => (.space :: ·) <$> tokens rest
  | '\n' :: rest => (.lineEnd :: ·) <$> tokens rest
  | '\r' :: '\n' :: rest => (.lineEnd :: ·) <$> tokens rest
  | '#' :: rest => tokens (rest.dropWhile isPlain)
  | '"' :: '"' :: '"' :: rest =>
    match _h : afterBlock '"' true (.content 0) rest with
    | some after => (.block :: ·) <$> tokens after
    | none => none
  | '\'' :: '\'' :: '\'' :: rest =>
    match _h : afterBlock '\'' false (.content 0) rest with
    | some after => (.block :: ·) <$> tokens after
    | none => none
  | '"' :: rest =>
    match _h : basicText rest with
    | some (s, after) => (.text (.ofList s) :: ·) <$> tokens after
    | none => none
  | '\'' :: rest =>
    match _h : literalText rest with
    | some (s, after) => (.text (.ofList s) :: ·) <$> tokens after
    | none => none
  | c :: rest =>
    if _h : isWordChar c then (.word (scanWord (c :: rest)).1 :: ·) <$> tokens (scanWord (c :: rest)).2
    else none
termination_by cs.length
decreasing_by
  all_goals first
    | (simp; done)
    | (simp; omega)
    | (have bound := length_afterBlock _h; simp; omega)
    | (have bound := length_basicText _h; simp; omega)
    | (have bound := length_literalText _h; simp; omega)
    | exact length_scanWord _h rest
    | (have bound := (List.dropWhile_sublist isPlain (l := rest)).length_le; simp; omega)

end Toml
end ApparatusGraph
