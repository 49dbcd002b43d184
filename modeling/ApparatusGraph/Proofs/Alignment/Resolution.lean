/-
# Where names lead

A name can be looked up in two ways.  A run goes to the last position that holds a node of the
name (`Alignment.follow`), and who reads an alignment looks for the first such node
(`Alignment.find?`).  Both skip the ingress, which has no name but counts as a position.  Where
names are distinct they agree (`Alignment.resolution_agrees`).

What the checks of the structure add is that every edge leads somewhere, and that the ingress is
the only node to which no name leads.
-/

import ApparatusGraph.Run.Visit
import ApparatusGraph.Proofs.Alignment.Sound

namespace ApparatusGraph
namespace Alignment

variable {a : Alignment} {origin target : String} {place : Fin a.size} {n : Node}

/-! ## Look-ups -/

/-- An edge that can be followed leads where its target is found. -/
theorem follow_eq_ok_iff : a.follow origin target = .ok place ↔ a.resolve? target = some place := by
  unfold follow
  cases a.resolve? target with
  | none => exact ⟨nofun, nofun⟩
  | some own =>
    exact ⟨fun h => congrArg some (Except.ok.inj h), fun h => congrArg _ (Option.some.inj h)⟩

/-- An edge cannot be followed when there is no node of its target, and that is the fault. -/
theorem follow_eq_error_iff {fault : Fault} : a.follow origin target = .error fault ↔
    a.resolve? target = none ∧ fault = .danglingReference origin target := by
  unfold follow
  cases a.resolve? target with
  | none => exact ⟨fun h => ⟨rfl, (Except.error.inj h).symm⟩, fun h => h.2 ▸ rfl⟩
  | some own => exact ⟨nofun, fun h => nomatch h.1⟩

/-- A node cannot be found under a name exactly when no node has it. -/
theorem find?_eq_none_iff : a.find? target = none ↔ target ∉ a.nodeNames := by
  unfold find? nodeNames
  rw [List.find?_eq_none, List.mem_filterMap]
  simp

/-- A name leads nowhere exactly when no node has it. -/
theorem resolve?_eq_none_iff : a.resolve? target = none ↔ target ∉ a.nodeNames := by
  constructor
  · intro hnone hmem
    obtain ⟨place, hplace⟩ := exists_resolve hmem
    rw [hnone] at hplace
    cases hplace
  · refine fun habsent => Option.eq_none_iff_forall_ne_some.2 fun place hplace => habsent ?_
    exact List.mem_filterMap.2 ⟨_, a.node_mem place, name_of_resolve hplace⟩

/-- No name leads to an ingress. -/
theorem ne_ingress_of_resolve (h : a.resolve? target = some place) (i : Ingress) :
    a.node place ≠ .ingress i := by
  intro hnode
  have hname := name_of_resolve h
  rw [hnode] at hname
  cases hname

/-- The node at a place is the one that is declared there. -/
theorem getElem?_place (a : Alignment) (place : Fin a.size) :
    a.operations[(place : Nat)]? = some (a.node place) :=
  List.getElem?_eq_getElem place.isLt

/-- Where names are distinct, the name of a node leads to where it stands. -/
theorem resolve_of_name (distinct : a.nodeNames.Nodup)
    (h : (a.node place).name? = some target) : a.resolve? target = some place := by
  obtain ⟨own, hown⟩ := exists_resolve (List.mem_filterMap.2 ⟨_, a.node_mem place, h⟩)
  have hposition : (own : Nat) = place :=
    position_eq_of_nodup_filterMap distinct (a.getElem?_place own) (a.getElem?_place place)
      (name_of_resolve hown) h
  rw [hown, Fin.ext hposition]

/-! ## The ingress -/

/-- One ingress stands at one place. -/
theorem ingress_place_unique (h : (a.operations.filterMap Node.ingress?).length = 1)
    {other : Fin a.size} {i j : Ingress} (hi : a.node place = .ingress i)
    (hj : a.node other = .ingress j) : place = other := by
  have hnodup : (a.operations.filterMap fun n => n.ingress?.map fun _ => ()).Nodup := by
    obtain ⟨only, honly⟩ := List.length_eq_one_iff.1 h
    rw [← List.map_filterMap, honly]
    exact List.pairwise_singleton _ _
  refine Fin.ext (position_eq_of_nodup_filterMap (b := ()) hnodup (a.getElem?_place place)
    (a.getElem?_place other) ?_ ?_)
  · rw [hi]
    rfl
  · rw [hj]
    rfl

/-- **Look-ups by name agree.**  Where the names of the nodes are distinct, an edge of a name leads
to a place exactly when the name finds a node, which is the node of that place and no ingress;
otherwise the edge is reported as dangling.  When the structure is accepted besides, every edge
leads to a place, and the ingress stands at the only place to which no name leads. -/
theorem resolution_agrees (distinct : a.nodeNames.Nodup) :
    (∀ origin target n, (∃ place, a.follow origin target = .ok place ∧ a.node place = n) ↔
      a.find? target = some n) ∧
    (∀ origin target place, a.follow origin target = .ok place → ∀ i, a.node place ≠ .ingress i) ∧
    (∀ origin target fault, a.follow origin target = .error fault ↔
      a.find? target = none ∧ fault = .danglingReference origin target) ∧
    (a.structureFault? = none →
      (∀ n ∈ a.operations, ∀ target ∈ n.successors, ∀ origin,
        ∃ place, a.follow origin target = .ok place) ∧
      ∃ (place : Fin a.size) (i : Ingress), a.ingress? = some ((place : Nat), i) ∧
        a.node place = .ingress i ∧
        ∀ other, (∀ origin target, a.follow origin target ≠ .ok other) ↔ other = place) := by
  simp only [follow_eq_ok_iff, follow_eq_error_iff, ne_eq]
  refine ⟨fun _ target n => ⟨?_, fun hfind => ?_⟩, fun _ target place => ne_ingress_of_resolve,
    fun origin target fault => ?_, fun haccepted => ?_⟩
  · rintro ⟨place, hplace, rfl⟩
    exact find_of_resolve distinct hplace
  · have hnamed : target ∈ a.nodeNames :=
      List.mem_filterMap.2 ⟨n, List.mem_of_find?_eq_some hfind, by simpa using List.find?_some hfind⟩
    obtain ⟨place, hplace⟩ := exists_resolve hnamed
    exact ⟨place, hplace, Option.some.inj ((find_of_resolve distinct hplace).symm.trans hfind)⟩
  · rw [resolve?_eq_none_iff, find?_eq_none_iff]
  · obtain ⟨hone, -, hclosed⟩ := structure_of_accepted haccepted
    obtain ⟨place, i, hingress, hnode⟩ := exists_ingress hone
    refine ⟨fun n hn target htarget _ => exists_resolve (hclosed n hn target htarget),
      place, i, hingress, hnode, fun other => ⟨fun hunreached => ?_, ?_⟩⟩
    · -- A node to which no name leads has none, so it is the ingress.
      cases hname : (a.node other).name? with
      | some name => exact absurd (resolve_of_name distinct hname) (hunreached "" name)
      | none =>
        obtain ⟨j, hj⟩ := Node.eq_ingress_of_name hname
        exact ingress_place_unique hone hj hnode
    · rintro rfl _ target hplace
      exact ne_ingress_of_resolve hplace i hnode

/-- In an alignment that declares its ingress second, the ingress is where no name leads. -/
theorem resolution_agrees_second :
    let work : Process := { name := "work", apparatus := "trim", next := "out" }
    let a : Alignment :=
      ⟨[.process work, .ingress ⟨"work", "prompt", []⟩, .egress ⟨"out", ∅⟩]⟩
    a.nodeNames.Nodup ∧ a.structureFault? = none ∧
      (∃ place, a.follow "ingress" "work" = .ok place ∧ a.node place = .process work) ∧
      a.follow "work" "ingress" = .error (.danglingReference "work" "ingress") ∧
      ∃ (place : Fin a.size) (i : Ingress), a.ingress? = some ((place : Nat), i) ∧
        a.node place = .ingress i ∧
        ∀ other, (∀ origin target, a.follow origin target ≠ .ok other) ↔ other = place := by
  intro work a
  have hdistinct : a.nodeNames.Nodup := by decide
  have haccepted : a.structureFault? = none := by decide
  obtain ⟨hfind, -, hdangling, hstructure⟩ := resolution_agrees hdistinct
  exact ⟨hdistinct, haccepted, (hfind _ _ _).2 rfl, (hdangling _ _ _).2 ⟨rfl, rfl⟩,
    (hstructure haccepted).2⟩

end Alignment
end ApparatusGraph
