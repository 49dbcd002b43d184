/-
# White space between tokens

A value has a row of tokens (`Json.marks`), and a row of tokens is written in many ways: white
space may stand before, between and after them, as much as one likes or none (`Json.Spaced`).
Whatever is chosen, the text cuts into that row again (`Json.tokens_spaced`).

| token | written as |
| --- | --- |
| mark, word | its characters |
| integer | its decimal digits |
| string | its characters between quotes, in any spelling |

Doubles are left out: whether the digits of a double read back is a matter of rounding.  An
integer does not say where it ends, so white space may only be left out after it where a mark
comes next (`Json.Separated`); in the tokens of a value that is so (`Json.separated_marks`).
-/

import ApparatusGraph.Proofs.Json.Strings

namespace ApparatusGraph
namespace Json

/-! ## The tokens of a value -/

mutual

/-- The tokens of a value. -/
def marks : Json → List Token
  | .null => [.null]
  | .bool b => [.bool b]
  | .number n => [.number (some n)]
  | .text s => [.text (some s)]
  | .list [] => [.openList, .closeList]
  | .list (item :: rest) => .openList :: (item.marks ++ itemMarks rest ++ [.closeList])
  | .object [] => [.openObject, .closeObject]
  | .object ((name, value) :: rest) =>
    .openObject :: .text (some name) :: .colon ::
      (value.marks ++ memberMarks rest ++ [.closeObject])

/-- The tokens of the items after the first. -/
def itemMarks : List Json → List Token
  | [] => []
  | item :: rest => .comma :: (item.marks ++ itemMarks rest)

/-- The tokens of the members after the first. -/
def memberMarks : List (String × Json) → List Token
  | [] => []
  | (name, value) :: rest =>
    .comma :: .text (some name) :: .colon :: (value.marks ++ memberMarks rest)

end

/-- The tokens of one character. -/
inductive Mark : Char → Token → Prop where
  | openList : Mark '[' .openList
  | closeList : Mark ']' .closeList
  | openObject : Mark '\x7b' .openObject
  | closeObject : Mark '\x7d' .closeObject
  | comma : Mark ',' .comma
  | colon : Mark ':' .colon

/-- How a token is written. -/
inductive Token.Written : Token → List Char → Prop where
  | mark {c t} (h : Mark c t) : Written t [c]
  | null : Written .null ['n', 'u', 'l', 'l']
  | true : Written (.bool true) ['t', 'r', 'u', 'e']
  | false : Written (.bool false) ['f', 'a', 'l', 's', 'e']
  | int {i} (h : -0x8000000000000000 ≤ i ∧ i < 0x10000000000000000) :
      Written (.number (some (.int i h))) (intChars i)
  | text {s : String} {cs} (h : Spelled s.toList cs) :
      Written (.text (some s)) ('"' :: (cs ++ ['"']))

/-- How a row of tokens is written, with white space around each of them. -/
inductive Spaced : List Token → List Char → Prop where
  | blank {space} (hspace : ∀ c ∈ space, isSpace c = true) : Spaced [] space
  | token {space t cs ts rest} (hspace : ∀ c ∈ space, isSpace c = true) (ht : t.Written cs)
      (h : Spaced ts rest) : Spaced (t :: ts) (space ++ (cs ++ rest))

namespace Spaced

variable {ts ts' : List Token} {cs cs' space : List Char}

/-- A token with no white space around it. -/
theorem single {t : Token} (ht : t.Written cs) : Spaced [t] cs := by
  have h : Spaced [t] ([] ++ (cs ++ [])) := .token (fun _ => nofun) ht (.blank fun _ => nofun)
  rwa [List.append_nil] at h

/-- White space may come first. -/
theorem after (hspace : ∀ c ∈ space, isSpace c = true) (h : Spaced ts cs) :
    Spaced ts (space ++ cs) := by
  have hboth {own : List Char} (hown : ∀ c ∈ own, isSpace c = true) :
      ∀ c ∈ space ++ own, isSpace c = true := fun c hc =>
    (List.mem_append.1 hc).elim (hspace c) (hown c)
  cases h with
  | blank hown => exact .blank (hboth hown)
  | token hown ht h =>
    rw [← List.append_assoc]
    exact .token (hboth hown) ht h

/-- Two rows, one after the other. -/
theorem append (h : Spaced ts cs) (h' : Spaced ts' cs') : Spaced (ts ++ ts') (cs ++ cs') := by
  induction h with
  | blank hspace => exact h'.after hspace
  | token hspace ht _ ih =>
    rw [List.append_assoc, List.append_assoc]
    exact .token hspace ht ih

end Spaced

/-! ## Where numbers end -/

/-- A row of tokens that does not go on a number that comes before it: it begins with a mark. -/
def BeginsWithMark (ts : List Token) : Prop := ∀ t, ts.head? = some t → ∃ c, Mark c t

/-- Where no token follows, none goes on a number. -/
theorem beginsWithMark_nil : BeginsWithMark [] := by
  rintro t ⟨⟩

/-- Tokens that begin with a mark do not go on a number. -/
theorem beginsWithMark_cons {c : Char} {t : Token} (h : Mark c t) (ts : List Token) :
    BeginsWithMark (t :: ts) := by
  rintro _ ⟨⟩
  exact ⟨c, h⟩

/-- After each number of a row comes a mark, or nothing. -/
def Separated : List Token → Prop
  | [] => True
  | .number _ :: ts => BeginsWithMark ts ∧ Separated ts
  | _ :: ts => Separated ts

/-- After an item comes a comma, or what follows the list. -/
theorem beginsWithMark_itemMarks (items : List Json) {rest : List Token}
    (hrest : BeginsWithMark rest) : BeginsWithMark (itemMarks items ++ rest) := by
  cases items with
  | nil => exact hrest
  | cons item items => exact beginsWithMark_cons .comma _

/-- After a member comes a comma, or what follows the object. -/
theorem beginsWithMark_memberMarks (members : List (String × Json)) {rest : List Token}
    (hrest : BeginsWithMark rest) : BeginsWithMark (memberMarks members ++ rest) := by
  cases members with
  | nil => exact hrest
  | cons member members => exact beginsWithMark_cons .comma _

mutual

/-- **The numbers of a value are separated.** -/
theorem separated_marks : (json : Json) → {rest : List Token} → BeginsWithMark rest →
    Separated rest → Separated (json.marks ++ rest)
  | .null, rest, _, h => h
  | .bool _, rest, _, h => h
  | .number _, rest, hrest, h => ⟨hrest, h⟩
  | .text _, rest, _, h => h
  | .list [], rest, _, h => h
  | .list (item :: items), rest, _, h => by
    have hclose : BeginsWithMark (Token.closeList :: rest) := beginsWithMark_cons .closeList rest
    have hitems := separated_itemMarks items hclose h
    have hitem := separated_marks item (beginsWithMark_itemMarks items hclose) hitems
    rw [marks, List.cons_append, List.append_assoc, List.append_assoc]
    exact hitem
  | .object [], rest, _, h => h
  | .object ((name, value) :: members), rest, _, h => by
    have hclose : BeginsWithMark (Token.closeObject :: rest) :=
      beginsWithMark_cons .closeObject rest
    have hmembers := separated_memberMarks members hclose h
    have hvalue := separated_marks value (beginsWithMark_memberMarks members hclose) hmembers
    rw [marks, List.cons_append, List.cons_append, List.cons_append, List.append_assoc,
      List.append_assoc]
    exact hvalue

/-- The items after the first. -/
theorem separated_itemMarks : (items : List Json) → {rest : List Token} → BeginsWithMark rest →
    Separated rest → Separated (itemMarks items ++ rest)
  | [], rest, _, h => h
  | item :: items, rest, hrest, h => by
    have hitems := separated_itemMarks items hrest h
    have hitem := separated_marks item (beginsWithMark_itemMarks items hrest) hitems
    rw [itemMarks, List.cons_append, List.append_assoc]
    exact hitem

/-- The members after the first. -/
theorem separated_memberMarks : (members : List (String × Json)) → {rest : List Token} →
    BeginsWithMark rest → Separated rest → Separated (memberMarks members ++ rest)
  | [], rest, _, h => h
  | (name, value) :: members, rest, hrest, h => by
    have hmembers := separated_memberMarks members hrest h
    have hvalue := separated_marks value (beginsWithMark_memberMarks members hrest) hmembers
    rw [memberMarks, List.cons_append, List.cons_append, List.cons_append, List.append_assoc]
    exact hvalue

end

/-! ## Scanning -/

/-- White space is a blank, a line feed, a tab or a carriage return. -/
theorem isSpace_iff {c : Char} : isSpace c = true ↔ c = ' ' ∨ c = '\n' ∨ c = '\t' ∨ c = '\r' := by
  simp [isSpace, or_assoc]

/-- White space is dropped. -/
theorem tokens_space {c : Char} (hc : isSpace c = true) (rest : List Char) :
    tokens (c :: rest) = tokens rest := by
  rcases isSpace_iff.1 hc with rfl | rfl | rfl | rfl <;> rw [tokens] <;> simp [isSpace]

/-- White space before tokens is passed over. -/
theorem tokens_spaces {space : List Char} (h : ∀ c ∈ space, isSpace c = true) (rest : List Char) :
    tokens (space ++ rest) = tokens rest := by
  induction space with
  | nil => rfl
  | cons c space ih =>
    rw [List.cons_append, tokens_space (h c List.mem_cons_self)]
    exact ih fun d hd => h d (List.mem_cons_of_mem _ hd)

/-- A mark is the token of its character. -/
theorem tokens_mark {c : Char} {t : Token} (h : Mark c t) (rest : List Char) :
    tokens (c :: rest) = (t :: ·) <$> tokens rest := by
  cases h <;> rw [tokens]

/-- A string is scanned between its quotes. -/
theorem tokens_text {s : String} {cs : List Char} (h : Spelled s.toList cs) (rest : List Char) :
    tokens ('"' :: (cs ++ ['"']) ++ rest) = (.text (some s) :: ·) <$> tokens rest := by
  have hscan := h.scanText rest
  rw [List.cons_append, List.append_assoc, List.singleton_append, tokens]
  split
  · rename_i found after heq
    rw [hscan] at heq
    cases heq
    rfl
  · rename_i heq
    rw [hscan] at heq
    cases heq

/-- A digit begins a numeral. -/
theorem tokens_digit {c : Char} (hc : c.isDigit = true) {cs after : List Char}
    {n : Decimal.Numeral} (hscan : scanNumeral false (c :: cs) = some (n, after)) :
    tokens (c :: cs) = (.number (Number.ofNumeral? n) :: ·) <$> tokens after := by
  have hspace : ¬isSpace c = true := fun hspace => by
    rcases isSpace_iff.1 hspace with rfl | rfl | rfl | rfl <;> cases hc
  rw [tokens.eq_def]
  split
  case h_13 =>
    rename_i heq
    cases heq
    rw [if_neg hspace]
    split
    · rename_i found rest heq
      rw [hscan] at heq
      cases heq
      rfl
    · rename_i heq
      rw [hscan] at heq
      cases heq
  -- No other token begins with a digit.
  all_goals
    rename_i heq
    cases heq <;> cases hc

/-- A minus begins a numeral. -/
theorem tokens_minus {cs after : List Char} {n : Decimal.Numeral}
    (hscan : scanNumeral true cs = some (n, after)) :
    tokens ('-' :: cs) = (.number (Number.ofNumeral? n) :: ·) <$> tokens after := by
  rw [tokens]
  split
  · rename_i found rest heq
    rw [hscan] at heq
    cases heq
    rfl
  · rename_i heq
    rw [hscan] at heq
    cases heq

/-- An integer is scanned before a text that does not go on it. -/
theorem tokens_int {i : Int} (h : -0x8000000000000000 ≤ i ∧ i < 0x10000000000000000)
    {rest : List Char} (hrest : EndsNumeral rest) :
    tokens (intChars i ++ rest) = (.number (some (.int i h)) :: ·) <$> tokens rest := by
  have hnumber := Number.ofNumeral?_int h
  have hscan := scanNumeral_toDigits (decide (i < 0)) i.natAbs hrest
  unfold intChars
  split
  · rename_i hneg
    rw [decide_eq_true hneg] at hnumber hscan
    rw [List.cons_append, tokens_minus hscan, hnumber]
  · rename_i hneg
    rw [decide_eq_false hneg] at hnumber hscan
    cases hdigits : Nat.toDigits 10 i.natAbs with
    | nil => exact absurd hdigits Nat.toDigits_ne_nil
    | cons d ds =>
      have hd : d.isDigit = true := isDigit_of_mem_toDigits (hdigits ▸ List.mem_cons_self)
      rw [hdigits, List.cons_append] at hscan
      rw [List.cons_append, tokens_digit hd hscan, ← hdigits, hnumber]

/-- A written token is scanned first, and what comes after it is cut by itself. -/
theorem Token.Written.tokens_append {t : Token} {cs : List Char} (h : t.Written cs)
    {rest : List Char} (hrest : ∀ n, t = .number n → EndsNumeral rest) :
    tokens (cs ++ rest) = (t :: ·) <$> tokens rest := by
  cases h with
  | mark h => exact tokens_mark h rest
  | null =>
    show tokens ('n' :: 'u' :: 'l' :: 'l' :: rest) = _
    rw [tokens]
  | true =>
    show tokens ('t' :: 'r' :: 'u' :: 'e' :: rest) = _
    rw [tokens]
  | false =>
    show tokens ('f' :: 'a' :: 'l' :: 's' :: 'e' :: rest) = _
    rw [tokens]
  | int h => exact tokens_int h (hrest _ rfl)
  | text h => exact tokens_text h rest

/-- White space ends a number, or what follows it does. -/
theorem endsNumeral_spaces {space rest : List Char} (h : ∀ c ∈ space, isSpace c = true)
    (hrest : EndsNumeral rest) : EndsNumeral (space ++ rest) := by
  cases space with
  | nil => exact hrest
  | cons c space =>
    rcases isSpace_iff.1 (h c List.mem_cons_self) with rfl | rfl | rfl | rfl <;>
      exact endsNumeral_cons rfl (by decide) (by decide) _

/-- A mark ends a number. -/
theorem Mark.endsNumeral {c : Char} {t : Token} (h : Mark c t) (rest : List Char) :
    EndsNumeral (c :: rest) := by
  cases h <;> exact endsNumeral_cons rfl (by decide) (by decide) rest

/-- The text of a row that begins with a mark does not go on a numeral. -/
theorem Spaced.endsNumeral {ts : List Token} {cs : List Char} (h : Spaced ts cs)
    (hbegins : BeginsWithMark ts) : EndsNumeral cs := by
  cases h with
  | blank hspace =>
    have hends := endsNumeral_spaces hspace endsNumeral_nil
    rwa [List.append_nil] at hends
  | @token space t own ts rest hspace ht h =>
    obtain ⟨c, hmark⟩ := hbegins t rfl
    refine endsNumeral_spaces hspace ?_
    cases ht with
    | mark hown => exact hown.endsNumeral rest
    | _ => cases hmark

/-- **Text cuts into the tokens it was written from,** whatever white space is between them. -/
theorem tokens_spaced {ts : List Token} {cs : List Char} (h : Spaced ts cs) (hts : Separated ts) :
    tokens cs = some ts := by
  induction h with
  | blank hspace =>
    have hnil := tokens_spaces hspace []
    rwa [List.append_nil, tokens] at hnil
  | @token space t cs ts rest hspace ht h ih =>
    have hrest : Separated ts ∧ ∀ n, t = .number n → EndsNumeral rest := by
      cases t with
      | number n => exact ⟨hts.2, fun _ _ => h.endsNumeral hts.1⟩
      | _ => exact ⟨hts, fun _ heq => by cases heq⟩
    rw [tokens_spaces hspace, ht.tokens_append hrest.2, ih hrest.1]
    rfl

/-- The text of a value cuts into the tokens of the value. -/
theorem tokens_of_spaced_marks {json : Json} {cs : List Char} (h : Spaced json.marks cs) :
    tokens cs = some json.marks := by
  have hseparated := separated_marks json beginsWithMark_nil trivial
  rw [List.append_nil] at hseparated
  exact tokens_spaced h hseparated

end Json
end ApparatusGraph
