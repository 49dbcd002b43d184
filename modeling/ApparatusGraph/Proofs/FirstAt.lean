/-
# First members

`FirstAt` says of a member of a list that it has a property and that none before it has.  A member
may have the property for where it stands, as when it repeats one before it.  The first
member of a list is its head or the first of its tail (`FirstAt.exists_cons_of`,
`FirstAt.exists_cons_of_not`), and what a search finds is a first member
(`findSome?_eq_some_iff_firstAt`, `find?_eq_some_iff_firstAt`).
-/

import Mathlib.Data.List.Basic

namespace ApparatusGraph

variable {α β : Type}

/-- The first member of a list with a property, and its position. -/
structure FirstAt (P : Nat → α → Prop) (l : List α) (k : Nat) (x : α) : Prop where
  entry : l[k]? = some x
  holds : P k x
  first : ∀ j y, j < k → l[j]? = some y → ¬P j y

namespace FirstAt

variable {P Q : Nat → α → Prop} {l : List α} {x : α}

/-- Nothing comes first in an empty list. -/
theorem not_nil {k : Nat} : ¬FirstAt P [] k x := fun h => by cases h.entry

/-- When the head has the property, it is the first. -/
theorem exists_cons_of (h : P 0 x) : (∃ k y, FirstAt P (x :: l) k y ∧ Q k y) ↔ Q 0 x := by
  constructor
  · rintro ⟨k, y, hfirst, hQ⟩
    cases k with
    | zero =>
      obtain rfl := Option.some.inj hfirst.entry
      exact hQ
    | succ k => exact absurd h (hfirst.first 0 x (Nat.succ_pos k) rfl)
  · exact fun hQ => ⟨0, x, ⟨rfl, h, fun j _ hj => absurd hj (Nat.not_lt_zero j)⟩, hQ⟩

/-- When the head does not have the property, the first is in the tail. -/
theorem exists_cons_of_not (h : ¬P 0 x) :
    (∃ k y, FirstAt P (x :: l) k y ∧ Q k y) ↔
      ∃ k y, FirstAt (fun j => P (j + 1)) l k y ∧ Q (k + 1) y := by
  constructor
  · rintro ⟨k, y, hfirst, hQ⟩
    cases k with
    | zero =>
      obtain rfl := Option.some.inj hfirst.entry
      exact absurd hfirst.holds h
    | succ k =>
      exact ⟨k, y, ⟨hfirst.entry, hfirst.holds,
        fun j z hj hz => hfirst.first (j + 1) z (Nat.succ_lt_succ hj) hz⟩, hQ⟩
  · rintro ⟨k, y, hfirst, hQ⟩
    refine ⟨k + 1, y, ⟨hfirst.entry, hfirst.holds, fun j z hj hz => ?_⟩, hQ⟩
    cases j with
    | zero =>
      obtain rfl := Option.some.inj hz
      exact h
    | succ j => exact hfirst.first j z (Nat.lt_of_succ_lt_succ hj) hz

end FirstAt

/-- The first answer on a list is that on the first member on which there is one. -/
theorem findSome?_eq_some_iff_firstAt {g : α → Option β} {b : β} {l : List α} :
    l.findSome? g = some b ↔ ∃ k x, FirstAt (fun _ y => g y ≠ none) l k x ∧ g x = some b := by
  induction l with
  | nil => exact ⟨nofun, fun ⟨_, _, h, _⟩ => absurd h FirstAt.not_nil⟩
  | cons x rest ih =>
    rw [List.findSome?_cons]
    cases hx : g x with
    | some c =>
      rw [FirstAt.exists_cons_of (by rw [hx]; nofun), hx]
    | none =>
      rw [FirstAt.exists_cons_of_not (by rw [hx]; exact fun hne => hne rfl)]
      exact ih

/-- A search finds the first member that passes the test. -/
theorem find?_eq_some_iff_firstAt {test : α → Bool} {x : α} {l : List α} :
    l.find? test = some x ↔ ∃ k, FirstAt (fun _ y => test y = true) l k x := by
  have hguard : (fun (_ : Nat) y => Option.guard test y ≠ none) = fun _ y => test y = true := by
    funext _ y
    simp [Option.guard]
  rw [List.find?_eq_findSome?_guard, findSome?_eq_some_iff_firstAt, hguard]
  constructor
  · rintro ⟨k, y, hfirst, hy⟩
    obtain ⟨rfl, -⟩ := Option.guard_eq_some_iff.1 hy
    exact ⟨k, hfirst⟩
  · rintro ⟨k, hfirst⟩
    exact ⟨k, x, hfirst, Option.guard_eq_some_iff.2 ⟨rfl, hfirst.holds⟩⟩

end ApparatusGraph
