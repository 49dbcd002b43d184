/-
# Texts of values

A text is written from no other value, if neither holds a double (`Json.write_inj`), however deep
they are nested: texts have tokens, and a row of tokens begins with at most one value
(`Json.marks_append_inj`).  And the text that a value is written to without white space is a line:
there is no line feed in it, whatever strings and numbers the value holds (`Json.oneLine_write`).
-/

import ApparatusGraph.Proofs.Json.Printer

namespace ApparatusGraph
namespace Json

/-! ## Rows of tokens -/

/-- The first token of a value. -/
def first : Json → Token
  | .null => .null
  | .bool b => .bool b
  | .number n => .number (some n)
  | .text s => .text (some s)
  | .list _ => .openList
  | .object _ => .openObject

/-- The tokens of a value after the first. -/
def others : Json → List Token
  | .list [] => [.closeList]
  | .list (item :: rest) => item.marks ++ itemMarks rest ++ [.closeList]
  | .object [] => [.closeObject]
  | .object ((name, value) :: rest) =>
    .text (some name) :: .colon :: (value.marks ++ memberMarks rest ++ [.closeObject])
  | _ => []

/-- The tokens of a value are its first and the others. -/
theorem marks_eq (json : Json) : json.marks = json.first :: json.others := by
  cases json with
  | list items => cases items <;> rw [marks, first, others]
  | object members => cases members <;> rw [marks, first, others]
  | _ => rfl

/-- Values whose tokens begin alike have one first token. -/
theorem first_inv {json json' : Json} {rest rest' : List Token}
    (h : json.marks ++ rest = json'.marks ++ rest') :
    json.first = json'.first ∧ json.others ++ rest = json'.others ++ rest' := by
  rw [marks_eq, marks_eq] at h
  exact List.cons.inj h

/-- No value begins with the end of a list. -/
theorem marks_append_ne_closeList (json : Json) (rest rest' : List Token) :
    json.marks ++ rest ≠ .closeList :: rest' := by
  rw [marks_eq]
  intro h
  have hfirst := (List.cons.inj h).1
  cases json <;> cases hfirst

mutual

/-- **A row of tokens begins with at most one value.** -/
theorem marks_append_inj : (json json' : Json) → {rest rest' : List Token} →
    json.marks ++ rest = json'.marks ++ rest' → json = json' ∧ rest = rest'
  | .null, json', rest, rest', h => by
    obtain ⟨hfirst, hrest⟩ := first_inv h
    cases json' <;> cases hfirst
    exact ⟨rfl, hrest⟩
  | .bool b, json', rest, rest', h => by
    obtain ⟨hfirst, hrest⟩ := first_inv h
    cases json' <;> cases hfirst
    exact ⟨rfl, hrest⟩
  | .number n, json', rest, rest', h => by
    obtain ⟨hfirst, hrest⟩ := first_inv h
    cases json' <;> cases hfirst
    exact ⟨rfl, hrest⟩
  | .text s, json', rest, rest', h => by
    obtain ⟨hfirst, hrest⟩ := first_inv h
    cases json' <;> cases hfirst
    exact ⟨rfl, hrest⟩
  | .list [], json', rest, rest', h => by
    obtain ⟨hfirst, hrest⟩ := first_inv h
    cases json' <;> cases hfirst
    rename_i items'
    cases items' with
    | nil => exact ⟨rfl, (List.cons.inj hrest).2⟩
    | cons item' items' =>
      rw [others, others, List.append_assoc, List.append_assoc] at hrest
      exact absurd hrest.symm (marks_append_ne_closeList item' _ _)
  | .list (item :: items), json', rest, rest', h => by
    obtain ⟨hfirst, hrest⟩ := first_inv h
    cases json' <;> cases hfirst
    rename_i items'
    cases items' with
    | nil =>
      rw [others, others, List.append_assoc, List.append_assoc] at hrest
      exact absurd hrest (marks_append_ne_closeList item _ _)
    | cons item' items' =>
      simp only [others, List.append_assoc] at hrest
      obtain ⟨rfl, hitems⟩ := marks_append_inj item item' hrest
      obtain ⟨rfl, hend⟩ := itemMarks_append_inj items items' hitems
      exact ⟨rfl, hend⟩
  | .object [], json', rest, rest', h => by
    obtain ⟨hfirst, hrest⟩ := first_inv h
    cases json' <;> cases hfirst
    rename_i members'
    cases members' with
    | nil => exact ⟨rfl, (List.cons.inj hrest).2⟩
    | cons member' members' => cases (List.cons.inj hrest).1
  | .object ((name, value) :: members), json', rest, rest', h => by
    obtain ⟨hfirst, hrest⟩ := first_inv h
    cases json' <;> cases hfirst
    rename_i members'
    cases members' with
    | nil => cases (List.cons.inj hrest).1
    | cons member' members' =>
      obtain ⟨name', value'⟩ := member'
      simp only [others, List.cons_append, List.append_assoc, List.cons.injEq, Token.text.injEq,
        Option.some.injEq, true_and] at hrest
      obtain ⟨rfl, hvalue⟩ := hrest
      obtain ⟨rfl, hmembers⟩ := marks_append_inj value value' hvalue
      obtain ⟨rfl, hend⟩ := memberMarks_append_inj members members' hmembers
      exact ⟨rfl, hend⟩

/-- The items after the first. -/
theorem itemMarks_append_inj : (items items' : List Json) → {rest rest' : List Token} →
    itemMarks items ++ ([.closeList] ++ rest) = itemMarks items' ++ ([.closeList] ++ rest') →
      items = items' ∧ rest = rest'
  | [], [], rest, rest', h => ⟨rfl, (List.cons.inj h).2⟩
  | [], item' :: items', rest, rest', h => by cases (List.cons.inj h).1
  | item :: items, [], rest, rest', h => by cases (List.cons.inj h).1
  | item :: items, item' :: items', rest, rest', h => by
    simp only [itemMarks, List.cons_append, List.append_assoc, List.cons.injEq, true_and] at h
    obtain ⟨rfl, hitems⟩ := marks_append_inj item item' h
    obtain ⟨rfl, hrest⟩ := itemMarks_append_inj items items' hitems
    exact ⟨rfl, hrest⟩

/-- The members after the first. -/
theorem memberMarks_append_inj : (members members' : List (String × Json)) →
    {rest rest' : List Token} →
    memberMarks members ++ ([.closeObject] ++ rest) =
      memberMarks members' ++ ([.closeObject] ++ rest') → members = members' ∧ rest = rest'
  | [], [], rest, rest', h => ⟨rfl, (List.cons.inj h).2⟩
  | [], member' :: members', rest, rest', h => by cases (List.cons.inj h).1
  | member :: members, [], rest, rest', h => by cases (List.cons.inj h).1
  | (name, value) :: members, (name', value') :: members', rest, rest', h => by
    simp only [memberMarks, List.cons_append, List.append_assoc, List.cons.injEq,
      Token.text.injEq, Option.some.injEq, true_and] at h
    obtain ⟨rfl, hvalue⟩ := h
    obtain ⟨rfl, hmembers⟩ := marks_append_inj value value' hvalue
    obtain ⟨rfl, hrest⟩ := memberMarks_append_inj members members' hmembers
    exact ⟨rfl, hrest⟩

end

/-- **Different values have different texts** in a layout of white space. -/
theorem write_inj {l : Layout} (hl : l.Blank) {json json' : Json} (hfree : json.FloatFree)
    (hfree' : json'.FloatFree) (h : json.write l 0 = json'.write l 0) : json = json' := by
  have htokens := tokens_of_spaced_marks (spaced_write hl json 0 hfree)
  rw [h, tokens_of_spaced_marks (spaced_write hl json' 0 hfree')] at htokens
  have hmarks : json.marks ++ [] = json'.marks ++ [] :=
    congrArg (· ++ []) (Option.some.inj htokens).symm
  exact (marks_append_inj json json' hmarks).1

/-- Values with one compact text are equal. -/
theorem compact_inj {json json' : Json} (hfree : json.FloatFree) (hfree' : json'.FloatFree)
    (h : json.compact = json'.compact) : json = json' :=
  write_inj Layout.compact_blank hfree hfree' (String.ofList_injective h)

/-- Values with one indented text are equal. -/
theorem pretty_inj {json json' : Json} (hfree : json.FloatFree) (hfree' : json'.FloatFree)
    (h : json.pretty = json'.pretty) : json = json' :=
  write_inj Layout.spread_blank hfree hfree' (String.ofList_injective h)

/-! ## Lines -/

/-- There is no line feed among the characters. -/
def OneLine (cs : List Char) : Prop := '\n' ∉ cs

instance (cs : List Char) : Decidable (OneLine cs) := inferInstanceAs (Decidable ('\n' ∉ cs))

namespace OneLine

variable {cs cs' : List Char} {c : Char}

/-- The empty text is on one line. -/
theorem nil : OneLine [] := List.not_mem_nil

/-- A character that is no line feed goes on a line. -/
theorem cons (hc : c ≠ '\n') (h : OneLine cs) : OneLine (c :: cs) :=
  List.not_mem_cons_of_ne_of_not_mem hc.symm h

/-- Two parts of a line are one line. -/
theorem append (h : OneLine cs) (h' : OneLine cs') : OneLine (cs ++ cs') := fun hmem =>
  (List.mem_append.1 hmem).elim h h'

/-- A character that is no line feed may be repeated on a line. -/
theorem replicate (n : Nat) (hc : c ≠ '\n') : OneLine (List.replicate n c) := fun hmem =>
  hc (List.eq_of_mem_replicate hmem).symm

/-- The digits of a number are one line. -/
theorem toDigits (n : Nat) : OneLine (Nat.toDigits 10 n) := fun hmem => by
  cases isDigit_of_mem_toDigits hmem

/-- The text of an integer is one line. -/
theorem intChars (i : Int) : OneLine (ApparatusGraph.intChars i) := by
  unfold ApparatusGraph.intChars
  split
  · exact cons (by decide) (toDigits _)
  · exact toDigits _

/-- Digits around a decimal point are one line. -/
theorem positional (h : OneLine cs) (whole : Int) : OneLine (FloatStyle.positional cs whole) := by
  unfold FloatStyle.positional
  split
  · exact cons (by decide) (cons (by decide) (append (replicate _ (by decide)) h))
  · have htake : OneLine (cs.take whole.toNat) := fun hmem => h (List.mem_of_mem_take hmem)
    have hdrop : OneLine (cs.drop whole.toNat) := fun hmem => h (List.mem_of_mem_drop hmem)
    dsimp only
    refine append (append htake (replicate _ (by decide))) (cons (by decide) ?_)
    split
    · exact cons (by decide) nil
    · exact hdrop

/-- Digits with an exponent are one line. -/
theorem scientific (h : OneLine cs) (e : Int) : OneLine (FloatStyle.scientific cs e) := by
  unfold FloatStyle.scientific
  have hsign : (if e < 0 then '-' else '+') ≠ '\n' := by split <;> decide
  refine append ?_ (cons (by decide) (cons hsign (toDigits _)))
  split
  · exact cons (List.ne_of_not_mem_cons h).symm
      (cons (by decide) (List.not_mem_of_not_mem_cons h))
  · exact h

/-- The digits of a double stand on one line, and so does what stands for one that has none. -/
theorem float (style : FloatStyle) (f : Float) : OneLine (style.write f) := by
  unfold FloatStyle.write
  split
  · decide
  · have hdigits := toDigits (Decimal.shortest f).digits
    dsimp only
    refine append ?_ ?_
    · split
      · exact nil
      · exact cons (by decide) nil
    · split
      · exact hdigits.positional _
      · exact hdigits.scientific _

/-- No digit is a line feed. -/
theorem digitChar {n : Nat} (hn : n < 0x10) : Nat.digitChar n ≠ '\n' := by
  revert n
  decide

/-- **Whatever character is escaped, it stands on one line.** -/
theorem escape (c : Char) : OneLine (Json.escape c) := by
  unfold Json.escape
  split
  · decide
  · decide
  · decide
  · decide
  · decide
  · decide
  · decide
  · rename_i _ _ _ _ hline _ _
    split
    · rename_i hlow
      have hhead : OneLine ['\\', 'u', '0', '0'] := by decide
      have hhigh := digitChar (n := c.toNat / 16) (by omega)
      have hlow := digitChar (n := c.toNat % 16) (by omega)
      exact hhead.append (cons hhigh (cons hlow nil))
    · exact cons hline nil

/-- A quoted text is one line, whatever is in it. -/
theorem quote (s : String) : OneLine (Json.quote s) := by
  refine cons (by decide) (append (fun hmem => ?_) (cons (by decide) nil))
  obtain ⟨c, -, hc⟩ := List.mem_flatMap.1 hmem
  exact escape c hc

end OneLine

mutual

/-- **Written without white space, a value stands on one line.** -/
theorem oneLine_write : (json : Json) → (depth : Nat) → OneLine (write .compact depth json)
  | .null, depth => (by decide : OneLine ['n', 'u', 'l', 'l'])
  | .bool true, depth => (by decide : OneLine ['t', 'r', 'u', 'e'])
  | .bool false, depth => (by decide : OneLine ['f', 'a', 'l', 's', 'e'])
  | .number (.int i h), depth => .intChars i
  | .number (.float f), depth => .float .json f
  | .text s, depth => .quote s
  | .list [], depth => (by decide : OneLine ['[', ']'])
  | .list (item :: items), depth => by
    have hitem := oneLine_write item (depth + 1)
    have hitems := oneLine_writeItems items (depth + 1)
    exact .cons (by decide) (((hitem.append hitems).append .nil).append (.cons (by decide) .nil))
  | .object [], depth => (by decide : OneLine ['\x7b', '\x7d'])
  | .object ((name, value) :: members), depth => by
    have hvalue := oneLine_write value (depth + 1)
    have hmembers := oneLine_writeMembers members (depth + 1)
    have hmember := ((OneLine.quote name).append (.cons (c := ':') (by decide) .nil)).append hvalue
    exact .cons (by decide) (((hmember.append hmembers).append .nil).append (.cons (by decide) .nil))

/-- The items after the first. -/
theorem oneLine_writeItems : (items : List Json) → (depth : Nat) →
    OneLine (writeItems .compact depth items)
  | [], depth => .nil
  | item :: items, depth => by
    have hitem := oneLine_write item depth
    have hitems := oneLine_writeItems items depth
    exact .cons (by decide) (hitem.append hitems)

/-- The members after the first. -/
theorem oneLine_writeMembers : (members : List (String × Json)) → (depth : Nat) →
    OneLine (writeMembers .compact depth members)
  | [], depth => .nil
  | (name, value) :: members, depth => by
    have hvalue := oneLine_write value depth
    have hmembers := oneLine_writeMembers members depth
    have hmember := ((OneLine.quote name).append (.cons (c := ':') (by decide) .nil)).append hvalue
    exact .cons (by decide) (hmember.append hmembers)

end

end Json
end ApparatusGraph
