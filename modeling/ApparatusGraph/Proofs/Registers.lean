/-
# Writes in a row

Insertions in a row leave at each name the last value inserted there
(`Named.get?_insertAll`), so the map they build on nothing carries all that they do to
any map (`Named.insertAll_entries_ofList`), and the entries of a map may be inserted in
any order (`Named.insertAll_of_perm`).  Writes to registers are such insertions
(`Registers.slots_writeAll`).
-/

import Mathlib.Data.List.Nodup
import ApparatusGraph.Registers

namespace ApparatusGraph

universe u

namespace Named

variable {α : Type u}

/-- The map after insertions in a row. -/
def insertAll (m : Named α) (pairs : List (String × α)) : Named α :=
  pairs.foldl (fun m (name, a) => m.insert name a) m

/-- **The last insertion counts.** -/
theorem get?_insertAll (m : Named α) (pairs : List (String × α)) (name : String) :
    (m.insertAll pairs).get? name = (pairs.reverse.lookup name).or (m.get? name) := by
  induction pairs generalizing m with
  | nil => rfl
  | cons e rest ih =>
    obtain ⟨first, a⟩ := e
    have hstep : (m.insertAll ((first, a) :: rest)).get? name =
        (rest.reverse.lookup name).or ((m.insert first a).get? name) := ih (m.insert first a)
    rw [hstep, List.reverse_cons, List.lookup_append, Option.or_assoc, get?_insert]
    by_cases h : name = first
    · subst h
      rw [if_pos rfl, List.lookup_cons_self, Option.some_or]
    · rw [if_neg h, List.lookup_cons, beq_false_of_ne h, List.lookup_nil, Option.none_or]

/-- A map of pairs has at each name what its last pair says. -/
theorem get?_ofList (pairs : List (String × α)) (name : String) :
    (ofList pairs).get? name = pairs.reverse.lookup name := by
  have h := get?_insertAll ∅ pairs name
  rw [get?_empty, Option.or_none] at h
  exact h

/-- Entries have distinct names, so it does not matter from which end one looks. -/
theorem lookup_reverse {l : List (String × α)} (h : (l.map (·.1)).Pairwise (· < ·))
    (name : String) : l.reverse.lookup name = l.lookup name := by
  induction l with
  | nil => rfl
  | cons e rest ih =>
    obtain ⟨first, a⟩ := e
    rw [List.map_cons, List.pairwise_cons] at h
    rw [List.reverse_cons, List.lookup_append, ih h.2]
    by_cases heq : name = first
    · subst heq
      have hnone : rest.lookup name = none := by
        cases hlookup : rest.lookup name with
        | none => rfl
        | some b =>
          have hmem := (lookup_eq_some_iff h.2).1 hlookup
          exact absurd (h.1 name (List.mem_map.2 ⟨_, hmem, rfl⟩)) (String.lt_irrefl name)
      rw [hnone, Option.none_or, List.lookup_cons_self, List.lookup_cons_self]
    · rw [List.lookup_cons, List.lookup_cons, beq_false_of_ne heq, List.lookup_nil, Option.or_none]

/-- A name was last inserted by one of the pairs, or by none of them. -/
theorem lookup_reverse_cases (pairs : List (String × α)) (name : String) :
    (∃ before a after, pairs = before ++ (name, a) :: after ∧ (∀ e ∈ after, e.1 ≠ name) ∧
        pairs.reverse.lookup name = some a) ∨
      (∀ e ∈ pairs, e.1 ≠ name) ∧ pairs.reverse.lookup name = none := by
  induction pairs with
  | nil => exact .inr ⟨fun _ he => absurd he List.not_mem_nil, rfl⟩
  | cons e rest ih =>
    obtain ⟨first, a⟩ := e
    rw [List.reverse_cons, List.lookup_append]
    obtain ⟨before, b, after, rfl, hafter, hlookup⟩ | ⟨habsent, hlookup⟩ := ih
    · rw [hlookup]
      exact .inl ⟨(first, a) :: before, b, after, rfl, hafter, rfl⟩
    · rw [hlookup, Option.none_or]
      by_cases heq : name = first
      · subst heq
        exact .inl ⟨[], a, rest, rfl, habsent, List.lookup_cons_self⟩
      · rw [List.lookup_cons, beq_false_of_ne heq]
        refine .inr ⟨fun e he => ?_, rfl⟩
        rcases List.mem_cons.1 he with rfl | he
        · exact fun hname => heq hname.symm
        · exact habsent e he

/-- Inserting the entries of the map of some pairs is inserting the pairs. -/
theorem insertAll_entries_ofList (m : Named α) (pairs : List (String × α)) :
    m.insertAll (ofList pairs).entries = m.insertAll pairs := by
  refine ext_get? fun name => ?_
  rw [get?_insertAll, get?_insertAll, lookup_reverse (ofList pairs).increasing, ← get?_ofList]
  rfl

/-- A map is what its entries make of nothing. -/
theorem insertAll_entries (m : Named α) : (∅ : Named α).insertAll m.entries = m := by
  refine ext_get? fun name => ?_
  rw [get?_insertAll, lookup_reverse m.increasing, get?_empty, Option.or_none]
  rfl

/-- Insertions at different names may change places. -/
theorem insert_comm {name other : String} (hne : name ≠ other) (m : Named α) (a b : α) :
    (m.insert name a).insert other b = (m.insert other b).insert name a := by
  refine ext_get? fun x => ?_
  simp only [get?_insert]
  by_cases hx : x = other
  · have hxname : x ≠ name := fun heq => hne (heq.symm.trans hx)
    rw [if_pos hx, if_neg hxname, if_pos hx]
  · rw [if_neg hx, if_neg hx]

/-- No name has two entries. -/
theorem nodup_names (m : Named α) : (m.entries.map (·.1)).Nodup := by
  refine m.increasing.imp ?_
  rintro name _ hlt rfl
  exact String.lt_irrefl name hlt

/-- **The entries of a map make it in any order.** -/
theorem insertAll_of_perm {m : Named α} {pairs : List (String × α)} (h : pairs.Perm m.entries) :
    (∅ : Named α).insertAll pairs = m := by
  have hdistinct : (pairs.map (·.1)).Nodup := (h.map _).nodup_iff.2 m.nodup_names
  have hcomm : ∀ e ∈ pairs, ∀ e' ∈ pairs, ∀ n : Named α,
      (n.insert e.1 e.2).insert e'.1 e'.2 = (n.insert e'.1 e'.2).insert e.1 e.2 := by
    intro e he e' he' n
    by_cases hname : e.1 = e'.1
    · rw [List.inj_on_of_nodup_map hdistinct he he' hname]
    · exact insert_comm hname n e.2 e'.2
  calc (∅ : Named α).insertAll pairs
      = (∅ : Named α).insertAll m.entries := h.foldl_eq' hcomm ∅
    _ = m := m.insertAll_entries

end Named

namespace Registers

/-- Writes in a row are insertions in a row. -/
theorem slots_writeAll (r : Registers) (ws : List (Address × Param)) :
    (r.writeAll ws).slots = r.slots.insertAll ws := by
  induction ws generalizing r with
  | nil => rfl
  | cons w rest ih => exact ih (r.write w.1 w.2)

/-- Of writes in a row, the last to an address counts. -/
theorem read_writeAll (r : Registers) (ws : List (Address × Param)) (address : Address) :
    (r.writeAll ws).read address = (ws.reverse.lookup address).or (r.read address) := by
  unfold read
  rw [slots_writeAll, Named.get?_insertAll]

/-- Every write is counted. -/
theorem writes_writeAll (r : Registers) (ws : List (Address × Param)) :
    (r.writeAll ws).writes = r.writes + ws.length := by
  induction ws generalizing r with
  | nil => rfl
  | cons w rest ih =>
    have hrest : (r.writeAll (w :: rest)).writes = (r.write w.1 w.2).writes + rest.length := ih _
    rw [hrest, List.length_cons]
    show r.writes + 1 + rest.length = _
    omega

/-! ## Scattering -/

/-- The writes that bindings make of a record, in the order of vars. -/
def writesOf (b : Bindings) (output : Record) : List (Address × Param) :=
  b.entries.filterMap fun (var, address) => (output.get? var).map (address, ·)

/-- Collecting stops at the first entry that cannot be served, and otherwise comes to the writes of
all entries. -/
theorem collect_eq (node : String) (output : Record) (c : Contract)
    (entries : List (Var × Address)) :
    collect node output c entries = match entries.find? (output.lacks c) with
      | some (var, _) => .error (.missingOutput node var)
      | none => .ok (entries.filterMap fun (var, address) => (output.get? var).map (address, ·)) := by
  induction entries with
  | nil => rfl
  | cons entry rest ih =>
    obtain ⟨var, address⟩ := entry
    have hlacks : output.lacks c (var, address) =
        ((output.get? var).isNone && !c.allowsAbsent var) := rfl
    rw [collect, List.find?_cons, List.filterMap_cons, hlacks, ih]
    dsimp only
    cases output.get? var with
    | some p => cases rest.find? (output.lacks c) <;> rfl
    | none => cases c.allowsAbsent var <;> rfl

/-- Scattering writes all that the bindings make of the record, or nothing. -/
theorem scatter_eq (r : Registers) (node : String) (b : Bindings) (output : Record) (c : Contract) :
    r.scatter node b output c = match b.entries.find? (output.lacks c) with
      | some (var, _) => (.error (.missingOutput node var), r)
      | none => (.ok (), r.writeAll (writesOf b output)) := by
  unfold scatter
  rw [collect_eq]
  cases b.entries.find? (output.lacks c) <;> rfl

end Registers
end ApparatusGraph
