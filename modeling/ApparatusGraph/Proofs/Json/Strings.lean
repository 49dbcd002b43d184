/-
# Strings and integers, written and scanned

A string can be spelled in many ways (`Json.Spelled`), and each of them scans to the string
(`Json.Spelled.scanText`); what a string is quoted as is one of them
(`Json.spelled_flatMap_escape`).  An integer is written in one way, which scans back to the
integer (`Json.scanNumeral_toDigits`, `Number.ofNumeral?_int`).

A character may be spelled as itself unless it is a quote, a backslash or below the blank; by a
short escape if there is one for it; or by its 16-bit units.  Scanning joins two units that are
the surrogates of one character, so a unit stands for a character by itself only where it is no
surrogate.
-/

import ApparatusGraph.Json.Token
import ApparatusGraph.Json.Printer

namespace ApparatusGraph
namespace Json

/-! ## Strings -/

/-- How the characters of a string are spelled between its quotes: a character as itself, by an
escape of one letter, or by the number of its 16-bit unit or of its two. -/
inductive Spelled : List Char → List Char → Prop where
  | nil : Spelled [] []
  | plain {c s cs} (hquote : c ≠ '"') (hslash : c ≠ '\\') (hlow : 0x20 ≤ c.toNat)
      (h : Spelled s cs) : Spelled (c :: s) (c :: cs)
  | short {c e s cs} (hescape : escaped? e = some c) (h : Spelled s cs) :
      Spelled (c :: s) ('\\' :: e :: cs)
  | unit {a b c d n s cs} (hunit : unit? a b c d = some n) (hn : ¬(0xD800 ≤ n ∧ n < 0xE000))
      (h : Spelled s cs) : Spelled (.ofNat n :: s) ('\\' :: 'u' :: a :: b :: c :: d :: cs)
  | pair {a b c d high a' b' c' d' low s cs} (hhigh : unit? a b c d = some high)
      (hlow : unit? a' b' c' d' = some low)
      (hpair : 0xD800 ≤ high ∧ high < 0xDC00 ∧ 0xDC00 ≤ low ∧ low < 0xE000) (h : Spelled s cs) :
      Spelled (.ofNat (0x10000 + (high - 0xD800) * 0x400 + (low - 0xDC00)) :: s)
        ('\\' :: 'u' :: a :: b :: c :: d :: '\\' :: 'u' :: a' :: b' :: c' :: d' :: cs)

/-- A character that is written as itself. -/
theorem pieces_plain {c : Char} (hquote : c ≠ '"') (hslash : c ≠ '\\') (hlow : 0x20 ≤ c.toNat)
    (rest : List Char) :
    pieces (c :: rest) = (pieces rest).map fun (ps, after) => (.char c :: ps, after) := by
  rw [pieces]
  · rw [if_neg (Nat.not_lt.2 hlow)]
    cases pieces rest <;> rfl
  · exact hquote
  · rintro _ _ _ _ _ rfl
    exact absurd rfl hslash
  · rintro _ _ rfl
    exact absurd rfl hslash

/-- A character that is written with a short escape. -/
theorem pieces_short {c e : Char} (hescape : escaped? e = some c) (rest : List Char) :
    pieces ('\\' :: e :: rest) = (pieces rest).map fun (ps, after) => (.char c :: ps, after) := by
  rw [pieces]
  · rw [hescape]
    cases pieces rest <;> rfl
  · rintro _ _ _ _ _ rfl
    cases hescape

/-- A unit that is written with its number. -/
theorem pieces_unit {a b c d : Char} {n : Nat} (hunit : unit? a b c d = some n) (rest : List Char) :
    pieces ('\\' :: 'u' :: a :: b :: c :: d :: rest) =
      (pieces rest).map fun (ps, after) => (.unit n :: ps, after) := by
  rw [pieces, hunit]
  cases pieces rest <;> rfl

/-- A unit that is no surrogate is a character, whatever comes after it. -/
theorem joinPieces_unit {n : Nat} (hn : ¬(0xD800 ≤ n ∧ n < 0xE000)) (rest : List Piece) :
    joinPieces (.unit n :: rest) = (.ofNat n :: ·) <$> joinPieces rest := by
  rw [joinPieces.eq_def]
  split
  · cases ‹_ = []›
  · cases ‹_ = Piece.char _ :: _›
  · rename_i high low rest' heq
    cases heq
    rw [if_neg (by omega), if_neg hn]
  · rename_i m rest' hnext heq
    cases heq
    rw [if_neg hn]

/-- **A spelled string is scanned to its characters,** up to the quote that ends it. -/
theorem Spelled.pieces {s cs : List Char} (h : Spelled s cs) (rest : List Char) :
    ∃ ps, pieces (cs ++ '"' :: rest) = some (ps, rest) ∧ joinPieces ps = some s := by
  induction h with
  | nil =>
    refine ⟨[], ?_, ?_⟩
    · rw [List.nil_append, Json.pieces]
    · rw [joinPieces]
  | @plain c s cs hquote hslash hlow _ ih =>
    obtain ⟨ps, hps, hjoin⟩ := ih
    refine ⟨.char c :: ps, ?_, ?_⟩
    · rw [List.cons_append, pieces_plain hquote hslash hlow, hps]
      rfl
    · rw [joinPieces, hjoin]
      rfl
  | @short c e s cs hescape _ ih =>
    obtain ⟨ps, hps, hjoin⟩ := ih
    refine ⟨.char c :: ps, ?_, ?_⟩
    · rw [List.cons_append, List.cons_append, pieces_short hescape, hps]
      rfl
    · rw [joinPieces, hjoin]
      rfl
  | @unit a b c d n s cs hunit hn _ ih =>
    obtain ⟨ps, hps, hjoin⟩ := ih
    refine ⟨.unit n :: ps, ?_, ?_⟩
    · show Json.pieces ('\\' :: 'u' :: a :: b :: c :: d :: (cs ++ '"' :: rest)) = _
      rw [pieces_unit hunit, hps]
      rfl
    · rw [joinPieces_unit hn, hjoin]
      rfl
  | @pair a b c d high a' b' c' d' low s cs hhigh hlow hpair _ ih =>
    obtain ⟨ps, hps, hjoin⟩ := ih
    refine ⟨.unit high :: .unit low :: ps, ?_, ?_⟩
    · show Json.pieces ('\\' :: 'u' :: a :: b :: c :: d ::
        '\\' :: 'u' :: a' :: b' :: c' :: d' :: (cs ++ '"' :: rest)) = _
      rw [pieces_unit hhigh, pieces_unit hlow, hps]
      rfl
    · rw [joinPieces, if_pos hpair, hjoin]
      rfl

/-- A spelled string scans to the string. -/
theorem Spelled.scanText {s : String} {cs : List Char} (h : Spelled s.toList cs)
    (rest : List Char) : scanText (cs ++ '"' :: rest) = some (some s, rest) := by
  obtain ⟨ps, hps, hjoin⟩ := h.pieces rest
  unfold Json.scanText
  rw [hps]
  dsimp only [Option.bind_eq_bind, Option.bind_some]
  rw [hjoin, Option.map_some, String.ofList_toList]

/-- The two lower digits of an escaped control character are read as they are written. -/
theorem unit?_digitChar : ∀ n < 0x20,
    unit? '0' '0' (Nat.digitChar (n / 16)) (Nat.digitChar (n % 16)) = some n := by decide

/-- **A quoted string is spelled,** whatever characters it has. -/
theorem spelled_flatMap_escape (s : List Char) : Spelled s (s.flatMap escape) := by
  induction s with
  | nil => exact .nil
  | cons c s ih =>
    rw [List.flatMap_cons]
    unfold escape
    split
    · exact .short rfl ih
    · exact .short rfl ih
    · exact .short rfl ih
    · exact .short rfl ih
    · exact .short rfl ih
    · exact .short rfl ih
    · exact .short rfl ih
    · rename_i hquote hslash hback hfeed hline hreturn htab
      split
      · rename_i hlow
        -- Below the blank there are no surrogates, so the unit is the character.
        have hunit := Spelled.unit (unit?_digitChar c.toNat hlow) (by omega) ih
        rwa [Char.ofNat_toNat] at hunit
      · rename_i hlow
        exact .plain hquote hslash (Nat.not_lt.1 hlow) ih

/-- A quoted string says where it ends. -/
theorem quote_append_inj {s s' : String} {cs cs' : List Char}
    (h : quote s ++ cs = quote s' ++ cs') : s = s' ∧ cs = cs' := by
  have hscan (s : String) (cs : List Char) :
      scanText ((quote s ++ cs).tail) = some (some s, cs) := by
    have hbody := (spelled_flatMap_escape s.toList).scanText cs
    unfold quote
    rw [List.cons_append, List.tail_cons, List.append_assoc, List.singleton_append]
    exact hbody
  have hboth := hscan s cs
  rw [h, hscan s' cs'] at hboth
  cases hboth
  exact ⟨rfl, rfl⟩

/-! ## Integers -/

/-- A text that does not go on a numeral that comes before it. -/
def EndsNumeral (rest : List Char) : Prop :=
  ∀ c, rest.head? = some c → c.isDigit = false ∧ c ≠ '.' ∧ c ≠ 'e' ∧ c ≠ 'E'

/-- The end of the text ends a number. -/
theorem endsNumeral_nil : EndsNumeral [] := by
  rintro c ⟨⟩

/-- A character that is no part of a number ends it. -/
theorem endsNumeral_cons {c : Char} (hdigit : c.isDigit = false) (hpoint : c ≠ '.')
    (hpower : c ≠ 'e' ∧ c ≠ 'E') (rest : List Char) : EndsNumeral (c :: rest) := by
  rintro d ⟨⟩
  exact ⟨hdigit, hpoint, hpower⟩

/-- A positive number does not begin with a zero. -/
theorem toDigits_eq_cons {n : Nat} (hpos : 0 < n) :
    ∃ d ds, Nat.toDigits 10 n = d :: ds ∧ d ≠ '0' := by
  induction n using Nat.strongRecOn with
  | ind n ih =>
    rw [Nat.toDigits_eq_if (by decide)]
    split
    · rename_i hlt
      refine ⟨_, [], rfl, fun hzero => ?_⟩
      have hvalue := Nat.toNat_digitChar_of_lt_ten hlt
      rw [hzero] at hvalue
      have hzero : '0'.toNat = 48 := rfl
      omega
    · obtain ⟨d, ds, hds, hd⟩ := ih (n / 10) (by omega) (by omega)
      rw [hds]
      exact ⟨d, ds ++ [(n % 10).digitChar], rfl, hd⟩

/-- The decimal digits of a number are digits. -/
theorem isDigit_of_mem_toDigits {n : Nat} {c : Char} (h : c ∈ Nat.toDigits 10 n) :
    c.isDigit = true := Nat.isDigit_of_mem_toDigits (by decide) (by decide) h

/-- The digits of a number are scanned whole. -/
theorem scanWhole_toDigits (n : Nat) {rest : List Char} (hrest : EndsNumeral rest) :
    scanWhole (Nat.toDigits 10 n ++ rest) = some (Nat.toDigits 10 n, rest) := by
  rcases Nat.eq_zero_or_pos n with rfl | hpos
  · rfl
  · obtain ⟨d, ds, hds, hd⟩ := toDigits_eq_cons hpos
    have hdigit {c : Char} (hc : c ∈ d :: ds) : c.isDigit = true := isDigit_of_mem_toDigits (hds ▸ hc)
    have hnone : rest.takeWhile Char.isDigit = [] ∧ rest.dropWhile Char.isDigit = rest := by
      cases rest with
      | nil => exact ⟨rfl, rfl⟩
      | cons c rest =>
        have hc := Bool.eq_false_iff.1 (hrest c rfl).1
        exact ⟨List.takeWhile_cons_of_neg hc, List.dropWhile_cons_of_neg hc⟩
    have htail : ∀ c ∈ ds, c.isDigit = true := fun c hc => hdigit (List.mem_cons_of_mem _ hc)
    rw [hds, List.cons_append, scanWhole, if_pos (hdigit List.mem_cons_self),
      List.takeWhile_append_of_pos htail, List.dropWhile_append_of_pos htail, hnone.1, hnone.2,
      List.append_nil]
    exact hd

/-- **The digits of a number are a numeral of their own.** -/
theorem scanNumeral_toDigits (negative : Bool) (n : Nat) {rest : List Char}
    (hrest : EndsNumeral rest) :
    scanNumeral negative (Nat.toDigits 10 n ++ rest) =
      some (⟨negative, Nat.toDigits 10 n, none, none⟩, rest) := by
  have hfraction : scanFraction rest = some (none, rest) := by
    cases rest with
    | nil => rfl
    | cons c rest =>
      rw [scanFraction]
      rintro _ ⟨⟩
      exact absurd rfl (hrest '.' rfl).2.1
  have hpower : scanPower rest = some (none, rest) := by
    cases rest with
    | nil => rfl
    | cons c rest =>
      obtain ⟨-, -, he, hE⟩ := hrest c rfl
      rw [scanPower, if_neg (not_or.2 ⟨he, hE⟩)]
  unfold scanNumeral
  rw [scanWhole_toDigits n hrest]
  dsimp only [Option.bind_eq_bind, Option.bind_some]
  rw [hfraction]
  dsimp only [Option.bind_some]
  rw [hpower]
  rfl

/-- The digits of a number have its value. -/
theorem digitsValue_toDigits (n : Nat) : Decimal.digitsValue (Nat.toDigits 10 n) = n :=
  Nat.ofDigitChars_toDigits (by decide) (by decide)

end Json

/-- **The numeral of an integer stands for the integer.** -/
theorem Number.ofNumeral?_int {i : Int} (h : -0x8000000000000000 ≤ i ∧ i < 0x10000000000000000) :
    ofNumeral? ⟨decide (i < 0), Nat.toDigits 10 i.natAbs, none, none⟩ = some (.int i h) := by
  have hvalue : Decimal.Numeral.toInt? ⟨decide (i < 0), Nat.toDigits 10 i.natAbs, none, none⟩ =
      some i := by
    unfold Decimal.Numeral.toInt?
    dsimp only
    rw [Json.digitsValue_toDigits]
    refine congrArg some ?_
    by_cases hneg : i < 0
    · rw [if_pos (decide_eq_true hneg)]
      omega
    · rw [if_neg (by rwa [decide_eq_true_eq])]
      omega
  unfold ofNumeral?
  rw [hvalue]
  dsimp only
  rw [dif_pos h, if_neg]
  rintro ⟨rfl, hneg⟩
  exact absurd (of_decide_eq_true hneg) (by decide)

end ApparatusGraph
