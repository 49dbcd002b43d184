/-
# Scattering

Scattering what an apparatus gave back is all or nothing.  Either every var that a node binds
is served or allowed to be absent, and then the served ones are written, in the order of
vars; or one is not, and then nothing is.

Several vars may be bound to one address.  The last of them that is served is the greatest
(`Named.Greatest`), and it is the one that counts (`Registers.read_writesOf`).  What scattering makes
of the registers is what a site is left with (`Site.leave_registers`).
-/

import ApparatusGraph.Proofs.Run.Served

namespace ApparatusGraph

variable {α : Type}

/-- The greatest name of a map at which a property holds, and the value there. -/
structure Named.Greatest (m : Named α) (P : String → α → Prop) (name : String) (a : α) : Prop where
  entry : m.get? name = some a
  holds : P name a
  greatest : ∀ other b, m.get? other = some b → P other b → other ≤ name

/-- An entry with the property is the greatest when none after it has the property. -/
theorem Named.greatest_of_append {m : Named α} {P : String → α → Prop} {name : String} {a : α}
    {before after : List (String × α)} (heq : m.entries = before ++ (name, a) :: after)
    (holds : P name a) (hafter : ∀ other b, (other, b) ∈ after → ¬P other b) :
    m.Greatest P name a := by
  have hordered := m.increasing
  rw [heq, List.map_append, List.map_cons, List.pairwise_append] at hordered
  refine ⟨get?_eq_some_iff.2 (heq ▸ List.mem_append_right _ List.mem_cons_self), holds,
    fun other b hother hholds => ?_⟩
  have hmem := get?_eq_some_iff.1 hother
  rw [heq, List.mem_append, List.mem_cons] at hmem
  rcases hmem with hmem | hmem | hmem
  · have hlt := hordered.2.2 other (List.mem_map_of_mem hmem) name List.mem_cons_self
    exact String.not_lt.1 (String.lt_asymm hlt)
  · obtain ⟨rfl, -⟩ := Prod.mk.inj hmem
    exact String.le_refl _
  · exact absurd hholds (hafter other b hmem)

/-- A site is left with the registers that scattering gives, whether it is left for another node or
with a fault. -/
theorem Site.leave_registers {σ : Type} (site : Site σ) (a : Alignment) (input : Record)
    (answer : Answer) (r : Registers) :
    let exit := site.exit answer.branch
    (site.leave a input answer r).2.2 =
      (r.scatter site.node exit.bindings answer.record exit.contract).2 := by
  unfold Site.leave
  dsimp only
  rcases r.scatter site.node (site.exit answer.branch).bindings answer.record
    (site.exit answer.branch).contract with ⟨scattered, r'⟩
  cases scattered with
  | error fault => rfl
  | ok passed =>
    dsimp only
    split <;> rfl

namespace Registers

variable {r : Registers} {node : String} {b : Bindings} {output : Record} {c : Contract}

/-- **Scattering fails exactly when a var is not served that may not be absent.** -/
theorem scatter_error_iff :
    (∃ fault, (r.scatter node b output c).1 = .error fault) ↔
      ∃ var address, b.get? var = some address ∧ output.get? var = none ∧
        c.allowsAbsent var = false := by
  constructor
  · rintro ⟨fault, h⟩
    obtain ⟨var, address, -, hleast⟩ := scatter_least (Prod.ext h rfl)
    exact ⟨var, address, hleast.entry, hleast.holds⟩
  · rintro ⟨var, address, hentry, hlacks⟩
    rw [scatter_eq]
    split
    · exact ⟨_, rfl⟩
    · rename_i hfind
      exact absurd hlacks (Named.not_of_find?_eq_none Record.lacks_iff hfind hentry)

/-- The writes of bindings, at an address: that of the greatest var that is bound to it and served,
if there is one. -/
theorem read_writesOf (r : Registers) (b : Bindings) (output : Record) (address : Address) :
    (∃ var, b.Greatest (fun var other => other = address ∧ output.contains var = true) var address ∧
        (r.writeAll (writesOf b output)).read address = output.get? var) ∨
      (∀ var, b.get? var = some address → output.get? var = none) ∧
        (r.writeAll (writesOf b output)).read address = r.read address := by
  rw [read_writeAll]
  obtain ⟨before, p, after, hwrites, hafter, hlookup⟩ | ⟨habsent, hlookup⟩ :=
    Named.lookup_reverse_cases (writesOf b output) address
  · -- The last write to the address is that of an entry, and the entries after it write elsewhere.
    obtain ⟨first, rest, hsplit, -, hrest⟩ := List.filterMap_eq_append_iff.1 hwrites
    obtain ⟨skipped, ⟨var, own⟩, later, hlater, -, hvar, hwritten⟩ :=
      List.filterMap_eq_cons_iff.1 hrest
    obtain ⟨q, hq, heq⟩ := Option.map_eq_some_iff.1 hvar
    obtain ⟨rfl, rfl⟩ := Prod.mk.inj heq
    refine .inl ⟨var, ?_, by rw [hlookup, hq, Option.some_or]⟩
    rw [hlater, ← List.append_assoc] at hsplit
    refine Named.greatest_of_append hsplit ⟨rfl, by rw [Named.contains, hq]; rfl⟩ ?_
    rintro other _ hmem ⟨rfl, hserved⟩
    obtain ⟨served, hserved⟩ := Option.isSome_iff_exists.1 hserved
    refine hafter (_, served) ?_ rfl
    rw [← hwritten]
    exact List.mem_filterMap.2 ⟨_, hmem, congrArg (Option.map _) hserved⟩
  · refine .inr ⟨fun var hentry => ?_, by rw [hlookup, Option.none_or]⟩
    cases hvar : output.get? var with
    | none => rfl
    | some p =>
      have hmem : (address, p) ∈ writesOf b output :=
        List.mem_filterMap.2 ⟨(var, address), Named.get?_eq_some_iff.1 hentry,
          congrArg (Option.map _) hvar⟩
      exact absurd rfl (habsent _ hmem)

/-- There is one write for each bound var that is served. -/
theorem length_writesOf (b : Bindings) (output : Record) :
    (writesOf b output).length = b.names.countP output.contains := by
  unfold writesOf Named.names
  rw [List.length_filterMap_eq_countP, List.countP_map]
  exact List.countP_congr fun e _ => by rw [Option.isSome_map]; rfl

/-- **Scattering is all or nothing, and the greatest var counts.**  It fails exactly when a bound
var is absent that may not be, naming the least such, and then the registers are as before, the
number of writes too.  Otherwise each address holds what the greatest var gives that is bound to it
and present, or what it held before, and there is one more write for each bound var that is
present.  These are the registers that a site is left with. -/
theorem scatter_atomic (r : Registers) (node : String) (b : Bindings) (output : Record)
    (c : Contract) :
    let (scattered, r') := r.scatter node b output c
    ((∃ fault, scattered = .error fault) ↔
      ∃ var address, b.get? var = some address ∧ output.get? var = none ∧
        c.allowsAbsent var = false) ∧
    (∀ fault, scattered = .error fault → r' = r ∧
      ∃ var address, fault = .missingOutput node var ∧
        b.Least (fun var _ => output.get? var = none ∧ c.allowsAbsent var = false) var address) ∧
    (scattered = .ok () →
      (∀ address,
        (∃ var, b.Greatest (fun var other => other = address ∧ output.contains var = true)
            var address ∧ r'.read address = output.get? var) ∨
          (∀ var, b.get? var = some address → output.get? var = none) ∧
            r'.read address = r.read address) ∧
      r'.writes = r.writes + b.names.countP output.contains) ∧
    ∀ {σ : Type} (site : Site σ) (a : Alignment) (input : Record) (answer : Answer),
      let exit := site.exit answer.branch
      (site.leave a input answer r).2.2 =
        (r.scatter site.node exit.bindings answer.record exit.contract).2 := by
  have hfails : (∃ fault, (r.scatter node b output c).1 = .error fault) ↔ _ := scatter_error_iff
  rcases hscatter : r.scatter node b output c with ⟨scattered, r'⟩
  rw [hscatter] at hfails
  refine ⟨hfails, ?fails, ?writes, fun site a input answer => site.leave_registers a input answer r⟩
  case fails =>
    rintro fault rfl
    exact ⟨(scatter_error hscatter).1, scatter_least hscatter⟩
  case writes =>
    rintro rfl
    obtain rfl := scatter_ok hscatter
    exact ⟨r.read_writesOf b output, by rw [writes_writeAll, length_writesOf]⟩

example : ((({} : Registers).scatter "join" (.ofList [("left", "draft"), ("right", "draft")])
    (.ofList [("left", .text "a"), ("right", .text "b")]) ∅).2.read "draft").bind (·.text?) =
      some "b" := by rfl

end Registers
end ApparatusGraph
