/-
# Trimming

Trimming is said here without regard to how it is done: it leaves what lies between blank
characters and is blank at neither end (`Text.IsTrimOf`).  There is one such part in every text
(`Text.isTrimOf_iff`), also in a blank one, where it is the empty text.
-/

import Mathlib.Data.List.DropRight
import Mathlib.Data.List.TakeWhile
import ApparatusGraph.Text.Blank

namespace ApparatusGraph
namespace Text

/-- A text lies in another between blank characters, and is blank at neither end. -/
structure IsTrimOf (t s : String) : Prop where
  surrounded : ∃ before after, isBlankText before = true ∧ isBlankText after = true ∧
    s = before ++ t ++ after
  bare : ∀ c, t.toList.head? = some c ∨ t.toList.getLast? = some c → isBlank c = false

variable {before after cs : List Char} {s t : String}

/-- Trimming at the end is trimming at the beginning, from the other side. -/
theorem trimEnd_eq (cs : List Char) : trimEnd cs = (trimStart cs.reverse).reverse := rfl

/-- A trimmed text has the characters that are trimmed at both ends. -/
theorem toList_trim (s : String) : (trim s).toList = trimEnd (trimStart s.toList) :=
  String.toList_ofList

/-- Blank characters at the beginning are dropped. -/
theorem trimStart_append (h : ∀ c ∈ before, isBlank c = true) :
    trimStart (before ++ cs) = trimStart cs :=
  List.dropWhile_append_of_pos h

/-- Blank characters at the end are dropped. -/
theorem trimEnd_append (h : ∀ c ∈ after, isBlank c = true) :
    trimEnd (cs ++ after) = trimEnd cs := by
  rw [trimEnd_eq, List.reverse_append, trimStart_append fun c hc => h c (List.mem_reverse.1 hc),
    trimEnd_eq]

/-- Nothing is dropped where the first character is not blank. -/
theorem trimStart_eq_self (h : ∀ c, cs.head? = some c → isBlank c = false) :
    trimStart cs = cs := by
  cases cs with
  | nil => rfl
  | cons c cs => exact List.dropWhile_cons_of_neg (by rw [h c rfl]; exact Bool.false_ne_true)

/-- Nothing is dropped where the last character is not blank. -/
theorem trimEnd_eq_self (h : ∀ c, cs.getLast? = some c → isBlank c = false) :
    trimEnd cs = cs := by
  rw [trimEnd_eq, trimStart_eq_self fun c hc => h c (List.head?_reverse ▸ hc), List.reverse_reverse]

/-- What is trimmed at its beginning does not begin with a blank character. -/
theorem head?_trimStart {c : Char} (h : (trimStart cs).head? = some c) : isBlank c = false := by
  have hnot := List.head?_dropWhile_not isBlank cs
  rwa [show (cs.dropWhile isBlank).head? = some c from h] at hnot

/-- What is trimmed at its end does not end with a blank character. -/
theorem getLast?_trimEnd {c : Char} (h : (trimEnd cs).getLast? = some c) : isBlank c = false := by
  rw [trimEnd_eq, List.getLast?_reverse] at h
  exact head?_trimStart h

/-- What is trimmed at its end begins as before, if anything is left of it. -/
theorem head?_trimEnd {c : Char} (h : (trimEnd cs).head? = some c) : cs.head? = some c := by
  obtain ⟨rest, hrest⟩ := List.rdropWhile_prefix isBlank cs
  rw [← hrest, List.head?_append, show (cs.rdropWhile isBlank).head? = some c from h]
  rfl

/-- What is blank at neither end is found between blank characters. -/
theorem trimEnd_trimStart_append (hbefore : ∀ c ∈ before, isBlank c = true)
    (hafter : ∀ c ∈ after, isBlank c = true)
    (hbare : ∀ c, cs.head? = some c ∨ cs.getLast? = some c → isBlank c = false) :
    trimEnd (trimStart (before ++ cs ++ after)) = cs := by
  rw [List.append_assoc, trimStart_append hbefore]
  cases cs with
  | nil =>
    rw [List.nil_append, show trimStart after = [] from List.dropWhile_eq_nil_iff.2 hafter]
    rfl
  | cons c cs =>
    have hstart : trimStart (c :: cs ++ after) = c :: cs ++ after :=
      trimStart_eq_self fun d hd => hbare d (.inl hd)
    rw [hstart, trimEnd_append hafter, trimEnd_eq_self fun d hd => hbare d (.inr hd)]

/-- What trimming leaves lies between blank characters and is blank at neither end. -/
theorem isTrimOf_trim (s : String) : IsTrimOf (trim s) s where
  surrounded := by
    refine ⟨.ofList (s.toList.takeWhile isBlank), .ofList ((trimStart s.toList).rtakeWhile isBlank),
      ?_, ?_, ?_⟩
    · unfold isBlankText
      rw [String.toList_ofList]
      exact List.all_takeWhile
    · unfold isBlankText
      rw [String.toList_ofList]
      exact List.all_eq_true.2 fun c => List.mem_rtakeWhile_imp
    · have hend : trimEnd (trimStart s.toList) ++ (trimStart s.toList).rtakeWhile isBlank =
          trimStart s.toList := List.rdropWhile_append_rtakeWhile
      rw [← String.toList_inj, String.toList_append, String.toList_append, String.toList_ofList,
        String.toList_ofList, toList_trim, List.append_assoc, hend]
      exact List.takeWhile_append_dropWhile.symm
  bare c hc := by
    rw [toList_trim] at hc
    rcases hc with hfirst | hlast
    · exact head?_trimStart (head?_trimEnd hfirst)
    · exact getLast?_trimEnd hlast

/-- **Trimming leaves the one part of a text that lies between blank characters and is blank at
neither end.** -/
theorem isTrimOf_iff : IsTrimOf t s ↔ t = trim s := by
  constructor
  · rintro ⟨⟨before, after, hbefore, hafter, rfl⟩, hbare⟩
    rw [← String.toList_inj, toList_trim, String.toList_append, String.toList_append,
      trimEnd_trimStart_append (List.all_eq_true.1 hbefore) (List.all_eq_true.1 hafter) hbare]
  · rintro rfl
    exact isTrimOf_trim s

/-- What is trimmed stays as it is. -/
theorem trim_trim (s : String) : trim (trim s) = trim s :=
  (isTrimOf_iff.1 ⟨⟨"", "", rfl, rfl, (String.append_empty.trans String.empty_append).symm⟩,
    (isTrimOf_trim s).bare⟩).symm

/-- Nothing is left of a text exactly when all of it is blank. -/
theorem trim_eq_empty_iff : trim s = "" ↔ isBlankText s = true := by
  constructor
  · intro h
    obtain ⟨before, after, hbefore, hafter, hs⟩ := (isTrimOf_trim s).surrounded
    unfold isBlankText at hbefore hafter ⊢
    rw [hs, h, String.append_empty, String.toList_append, List.all_append, hbefore, hafter]
    rfl
  · intro h
    refine (isTrimOf_iff.1 ⟨⟨s, "", h, rfl, ?_⟩, ?_⟩).symm
    · rw [String.append_empty, String.append_empty]
    · rintro c (hc | hc) <;> cases hc

end Text
end ApparatusGraph
