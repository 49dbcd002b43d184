/-
# The order of declaration

Where a node stands in the list of an alignment carries no meaning.

* validation accepts an alignment for what its nodes are (`Alignment.Valid`), so it
  accepts every order of nodes that it accepts (`Alignment.validate_perm`)
* an alignment whose nodes are among those of another has a map of places into it that
  every look-up of a run respects (`Alignment.Embeds`, `Alignment.exists_embeds`)

The second needs both alignments to be sound: a name must lead to one node in each, and
the edges of the smaller one must not lead out of it.
-/

import ApparatusGraph.Proofs.Alignment.Sound

namespace ApparatusGraph

variable {σ : Type}

namespace Alignment

/-! ## What validation accepts -/

/-- What validation accepts, said of the nodes without their order. -/
structure Valid (a : Alignment) (f : Foundry σ) : Prop extends Sound a f where
  egress : ∃ x, .egress x ∈ a.operations
  named : ∀ name ∈ a.nodeNames, Text.isBlankText name = false
  files : ∀ i, .ingress i ∈ a.operations → i.fileAddrs.length ≤ maxFileAddresses

/-- The egresses of an alignment are its nodes of that kind. -/
theorem mem_egresses {a : Alignment} {x : Egress} : x ∈ a.egresses ↔ .egress x ∈ a.operations := by
  unfold egresses
  rw [List.mem_filterMap]
  constructor
  · rintro ⟨n, hn, hx⟩
    cases n with
    | egress y =>
      cases hx
      exact hn
    | ingress i => cases hx
    | process p => cases hx
    | switch s => cases hx
  · exact fun hx => ⟨_, hx, rfl⟩

/-- The number of egresses is at fault exactly when there is none. -/
theorem egressFault?_eq_none_iff {a : Alignment} :
    a.egressFault? = none ↔ ∃ x, .egress x ∈ a.operations := by
  unfold egressFault?
  simp only [← mem_egresses]
  cases a.egresses with
  | nil => simp
  | cons x rest => simp

/-- When there is one ingress, the check of its file addresses is about every ingress. -/
theorem Sound.fileFault?_eq_none_iff {a : Alignment} {f : Foundry σ} (h : a.Sound f) :
    a.fileFault? = none ↔
      ∀ i, .ingress i ∈ a.operations → i.fileAddrs.length ≤ maxFileAddresses := by
  obtain ⟨place, hentry⟩ := h.entry
  obtain ⟨i, hi⟩ := ingress_of_entry hentry
  have hmem : .ingress i ∈ a.operations := by
    obtain ⟨-, hget⟩ := firstIngress_node hi
    exact List.mem_of_getElem? hget
  have hcheck : a.fileFault? = none ↔ i.fileAddrs.length ≤ maxFileAddresses := by
    unfold fileFault?
    rw [hi]
    simp
  rw [hcheck]
  constructor
  · intro hle j hj
    rw [h.ingress_unique hj hmem]
    exact hle
  · exact fun hall => hall i hmem

/-- **Validation accepts what is valid.** -/
theorem validate_eq_ok_iff_valid {a : Alignment} {f : Foundry σ} :
    a.validate f = .ok () ↔ a.Valid f := by
  constructor
  · intro h
    have hsound := sound_of_validate h
    obtain ⟨-, hegress, hname, hfile, -⟩ :=
      structureFault?_eq_none_iff.1 (validate_eq_ok_iff.1 h).1
    exact {
      toSound := hsound
      egress := egressFault?_eq_none_iff.1 hegress
      named := fun name hmem => ((nameFaultAfter_eq_none_iff.1 hname).2 name hmem).1
      files := hsound.fileFault?_eq_none_iff.1 hfile }
  · intro h
    refine validate_eq_ok_iff.2 ⟨structureFault?_eq_none_iff.2 ⟨?_, ?_, ?_, ?_, ?_⟩, h.served⟩
    · exact ingressFault?_eq_none_iff.2 h.oneIngress
    · exact egressFault?_eq_none_iff.2 h.egress
    · exact nameFaultAfter_eq_none_iff.2
        ⟨h.distinct, fun name hmem => ⟨h.named name hmem, List.not_mem_nil⟩⟩
    · exact h.toSound.fileFault?_eq_none_iff.2 h.files
    · exact edgeFault?_eq_none_iff.2 h.closed

/-- An alignment stays valid when its nodes are declared in another order. -/
theorem Valid.perm {a b : Alignment} {f : Foundry σ} (h : a.operations.Perm b.operations)
    (ha : a.Valid f) : b.Valid f where
  oneIngress := (h.filterMap Node.ingress?).length_eq ▸ ha.oneIngress
  distinct := (h.filterMap Node.name?).nodup_iff.1 ha.distinct
  closed n hn target htarget :=
    (h.filterMap Node.name?).mem_iff.1 (ha.closed n (h.mem_iff.2 hn) target htarget)
  served n hn := ha.served n (h.mem_iff.2 hn)
  egress := ha.egress.imp fun _ => h.mem_iff.1
  named name hmem := ha.named name ((h.filterMap Node.name?).mem_iff.2 hmem)
  files i hi := ha.files i (h.mem_iff.2 hi)

/-- The order of the nodes does not decide whether validation accepts them. -/
theorem validate_perm {a b : Alignment} (h : a.operations.Perm b.operations) (f : Foundry σ) :
    a.validate f = .ok () ↔ b.validate f = .ok () := by
  rw [validate_eq_ok_iff_valid, validate_eq_ok_iff_valid]
  exact ⟨Valid.perm h, Valid.perm h.symm⟩

/-! ## Alignments within alignments -/

/-- A map of the places of an alignment to places of another that hold the same nodes, where the
entry is the same and each edge leads to the same node. -/
structure Embeds (a b : Alignment) (φ : Fin a.size → Fin b.size) : Prop where
  node : ∀ place, b.node (φ place) = a.node place
  entry : b.entry? = a.entry?.map φ
  resolve : ∀ n ∈ a.operations, ∀ target ∈ n.successors,
    b.resolve? target = (a.resolve? target).map φ

theorem Embeds.refl (a : Alignment) : a.Embeds a id where
  node _ := rfl
  entry := Option.map_id.symm ▸ rfl
  resolve _ _ _ _ := Option.map_id.symm ▸ rfl

/-- **A sound alignment embeds into every sound alignment that has its nodes.** -/
theorem exists_embeds {a b : Alignment} {f : Foundry σ} (ha : a.Sound f) (hb : b.Sound f)
    (h : ∀ n ∈ a.operations, n ∈ b.operations) : ∃ φ, Embeds a b φ := by
  have hplace (i : Fin a.size) : ∃ j, b.node j = a.node i ∧
      (∀ name, (a.node i).name? = some name → b.resolve? name = some j) ∧
        ((a.node i).name? = none → b.entry? = some j) := by
    have hmem := h _ (a.node_mem i)
    cases hname : (a.node i).name? with
    | some name =>
      obtain ⟨j, hj⟩ := exists_resolve (a := b) (List.mem_filterMap.2 ⟨_, hmem, hname⟩)
      refine ⟨j, ?_, fun other hother => ?_, nofun⟩
      · exact hb.eq_of_name (b.node_mem j) hmem (name_of_resolve hj) hname
      · cases hother
        exact hj
    | none =>
      obtain ⟨x, hx⟩ := Node.eq_ingress_of_name hname
      obtain ⟨j, hj⟩ := hb.entry
      obtain ⟨y, hy⟩ := node_of_entry hj
      refine ⟨j, ?_, nofun, fun _ => hj⟩
      have hown : .ingress y ∈ b.operations := hy ▸ b.node_mem j
      rw [hx] at hmem ⊢
      rw [hy, hb.ingress_unique hown hmem]
  obtain ⟨φ, hφ⟩ := Classical.axiomOfChoice hplace
  refine ⟨φ, ⟨fun i => (hφ i).1, ?_, fun n hn target htarget => ?_⟩⟩
  · obtain ⟨i, hi⟩ := ha.entry
    obtain ⟨x, hx⟩ := node_of_entry hi
    have hnameless : (a.node i).name? = none := by
      rw [hx]
      rfl
    rw [hi, (hφ i).2.2 hnameless]
    rfl
  · obtain ⟨i, hi⟩ := ha.resolve hn htarget
    rw [hi, (hφ i).2.1 target (name_of_resolve hi)]
    rfl

end Alignment
end ApparatusGraph
