/-
# What validation promises to a run

A run finds its first node by kind, the node at the end of an edge by name, and an
apparatus by the name that a node gives for it.  None of these look-ups asks whether
the alignment was checked.  `Alignment.Sound` is what they rely on, and
`Alignment.sound_of_validate` says that validation establishes it:

* there is an ingress, and it is the only one (`Sound.entry`, `Sound.ingress_unique`)
* an edge leads to the one node of its name (`Sound.resolve`, `Sound.find_node`)
* a waypoint belongs to one node (`Sound.nodeOf_node`)
* a process finds a processor and a switch a switcher (`Sound.processor`, `Sound.switcher`)
-/

import ApparatusGraph.Alignment.Validation
import ApparatusGraph.Trace.Waypoint

namespace ApparatusGraph

variable {α β σ : Type}

/-- An answer of `f` comes from one position of a list, when the answers are distinct. -/
theorem position_eq_of_nodup_filterMap {f : α → Option β} {b : β} {x y : α} :
    ∀ {l : List α} {i j : Nat}, (l.filterMap f).Nodup → l[i]? = some x → l[j]? = some y →
      f x = some b → f y = some b → i = j
  | [], _, _, _, hi, _, _, _ => nomatch hi
  | _ :: _, 0, 0, _, _, _, _, _ => rfl
  | z :: l, 0, j + 1, hnodup, hi, hj, hx, hy => by
    obtain rfl := Option.some.inj hi
    rw [List.filterMap_cons_some hx, List.nodup_cons] at hnodup
    have hmem : y ∈ l := List.mem_of_getElem? (i := j) hj
    exact absurd (List.mem_filterMap.2 ⟨y, hmem, hy⟩) hnodup.1
  | z :: l, i + 1, 0, hnodup, hi, hj, hx, hy => by
    obtain rfl := Option.some.inj hj
    rw [List.filterMap_cons_some hy, List.nodup_cons] at hnodup
    have hmem : x ∈ l := List.mem_of_getElem? (i := i) hi
    exact absurd (List.mem_filterMap.2 ⟨x, hmem, hx⟩) hnodup.1
  | z :: l, i + 1, j + 1, hnodup, hi, hj, hx, hy => by
    have hrest : (l.filterMap f).Nodup :=
      ((List.sublist_cons_self z l).filterMap f).nodup hnodup
    rw [position_eq_of_nodup_filterMap hrest hi hj hx hy]

/-- Two members of a list on which an answer of `f` is the same are one, when the answers are
distinct. -/
theorem eq_of_nodup_filterMap {f : α → Option β} {b : β} {x y : α} {l : List α}
    (hnodup : (l.filterMap f).Nodup) (hx : x ∈ l) (hy : y ∈ l) (hfx : f x = some b)
    (hfy : f y = some b) : x = y := by
  obtain ⟨i, hi⟩ := List.mem_iff_getElem?.1 hx
  obtain ⟨j, hj⟩ := List.mem_iff_getElem?.1 hy
  obtain rfl := position_eq_of_nodup_filterMap hnodup hi hj hfx hfy
  exact Option.some.inj (hi.symm.trans hj)

/-- A node is known by the same name on the way through it. -/
@[simp]
theorem Node.waypoint_name (n : Node) : n.waypoint.name? = n.name? := by
  cases n <;> rfl

/-- A node without a name is an ingress. -/
theorem Node.eq_ingress_of_name {n : Node} (h : n.name? = none) : ∃ i, n = .ingress i := by
  cases n with
  | ingress i => exact ⟨i, rfl⟩
  | process p => cases h
  | switch s => cases h
  | egress e => cases h

namespace Alignment

/-- The node that a waypoint names. -/
def nodeOf? (a : Alignment) (w : Waypoint) : Option Node :=
  a.operations.find? fun n => n.waypoint = w

/-- What a run on a foundry relies on. -/
structure Sound (a : Alignment) (f : Foundry σ) : Prop where
  oneIngress : (a.operations.filterMap Node.ingress?).length = 1
  distinct : a.nodeNames.Nodup
  closed : ∀ n ∈ a.operations, ∀ target ∈ n.successors, target ∈ a.nodeNames
  served : ∀ n ∈ a.operations, nodeFault? f n = none

/-! ## The checks -/

/-- The check of the names passes when they are distinct, none of them blank and none seen
before. -/
theorem nameFaultAfter_eq_none_iff :
    ∀ {operations : List Node} {seen : List String} {position : Nat},
      nameFaultAfter seen position operations = none ↔
        (operations.filterMap Node.name?).Nodup ∧
          ∀ name ∈ operations.filterMap Node.name?, Text.isBlankText name = false ∧ name ∉ seen
  | [], _, _ => ⟨fun _ => ⟨List.nodup_nil, fun _ h => absurd h List.not_mem_nil⟩, fun _ => rfl⟩
  | n :: rest, seen, position => by
    unfold nameFaultAfter
    cases hname : n.name? with
    | none =>
      rw [List.filterMap_cons_none hname]
      exact nameFaultAfter_eq_none_iff
    | some name =>
      rw [List.filterMap_cons_some hname, List.nodup_cons, List.forall_mem_cons]
      dsimp only
      split
      · rename_i hblank
        simp [hblank]
      · split
        · rename_i hseen
          simp [hseen]
        · rename_i hblank hfresh
          rw [nameFaultAfter_eq_none_iff]
          constructor
          · rintro ⟨hnodup, hrest⟩
            refine ⟨⟨fun hmem => ?_, hnodup⟩, ⟨by simpa using hblank, hfresh⟩, fun other hother => ?_⟩
            · exact (hrest name hmem).2 List.mem_cons_self
            · exact ⟨(hrest other hother).1, fun hold =>
                (hrest other hother).2 (List.mem_cons_of_mem _ hold)⟩
          · rintro ⟨⟨hnew, hnodup⟩, -, hrest⟩
            refine ⟨hnodup, fun other hother => ⟨(hrest other hother).1, fun hold => ?_⟩⟩
            rcases List.mem_cons.1 hold with rfl | hold
            · exact hnew hother
            · exact (hrest other hother).2 hold

/-- The check of the edges passes when each of them names a node. -/
theorem edgeFault?_eq_none_iff {a : Alignment} :
    a.edgeFault? = none ↔ ∀ n ∈ a.operations, ∀ target ∈ n.successors, target ∈ a.nodeNames := by
  unfold edgeFault?
  rw [List.findSome?_eq_none_iff]
  refine forall₂_congr fun n hn => ?_
  rw [Option.map_eq_none_iff, List.find?_eq_none]
  simp

/-- The structure is at fault when one of its five checks finds a fault. -/
theorem structureFault?_eq_none_iff {a : Alignment} :
    a.structureFault? = none ↔ a.ingressFault? = none ∧ a.egressFault? = none ∧
      a.nameFault? = none ∧ a.fileFault? = none ∧ a.edgeFault? = none := by
  simp only [structureFault?, Option.orElse_eq_orElse, Option.orElse_eq_or, Option.or_eq_none_iff]

/-- Validation accepts what passes the checks of the structure and of each node. -/
theorem validate_eq_ok_iff {a : Alignment} {f : Foundry σ} :
    a.validate f = .ok () ↔
      a.structureFault? = none ∧ ∀ n ∈ a.operations, nodeFault? f n = none := by
  unfold validate fault?
  cases a.structureFault? with
  | some cause => simp
  | none =>
    rw [← List.findSome?_eq_none_iff]
    dsimp only
    cases a.operations.findSome? (nodeFault? f) <;> simp

/-- What a node calls is served when the foundry has it and it is of the expected kind. -/
theorem callFault?_eq_none_iff {f : Foundry σ} {node apparatus : String} {kind : ApparatusKind} :
    callFault? f node apparatus kind = none ↔ ∃ x, f.get? apparatus = some x ∧ x.kind = kind := by
  unfold callFault?
  cases f.get? apparatus <;> simp

/-- A process is served by a processor. -/
theorem callFault?_processor {f : Foundry σ} {node apparatus : String} :
    callFault? f node apparatus .processor = none ↔
      ∃ p, f.get? apparatus = some (.processor p) := by
  rw [callFault?_eq_none_iff]
  constructor
  · rintro ⟨x, hx, hkind⟩
    cases x with
    | processor p => exact ⟨p, hx⟩
    | switcher w => cases hkind
  · rintro ⟨p, hp⟩
    exact ⟨_, hp, rfl⟩

/-- A switch is served by a switcher. -/
theorem callFault?_switcher {f : Foundry σ} {node apparatus : String} :
    callFault? f node apparatus .switcher = none ↔
      ∃ w, f.get? apparatus = some (.switcher w) := by
  rw [callFault?_eq_none_iff]
  constructor
  · rintro ⟨x, hx, hkind⟩
    cases x with
    | processor p => cases hkind
    | switcher w => exact ⟨w, hx⟩
  · rintro ⟨w, hw⟩
    exact ⟨_, hw, rfl⟩

/-- The number of ingresses is at fault unless it is one. -/
theorem ingressFault?_eq_none_iff {a : Alignment} :
    a.ingressFault? = none ↔ (a.operations.filterMap Node.ingress?).length = 1 := by
  unfold ingressFault?
  split <;> rename_i hcount
  · simp [hcount]
  · simp [hcount]
  · exact ⟨nofun, fun hone => absurd hone hcount⟩

/-- The checks of the structure leave one ingress, names that differ and edges that name nodes. -/
theorem structure_of_accepted {a : Alignment} (h : a.structureFault? = none) :
    (a.operations.filterMap Node.ingress?).length = 1 ∧ a.nodeNames.Nodup ∧
      ∀ n ∈ a.operations, ∀ target ∈ n.successors, target ∈ a.nodeNames := by
  obtain ⟨hingress, -, hname, -, hedge⟩ := structureFault?_eq_none_iff.1 h
  exact ⟨ingressFault?_eq_none_iff.1 hingress, (nameFaultAfter_eq_none_iff.1 hname).1,
    edgeFault?_eq_none_iff.1 hedge⟩

/-- **Validation promises a run all it relies on.** -/
theorem sound_of_validate {a : Alignment} {f : Foundry σ} (h : a.validate f = .ok ()) :
    a.Sound f := by
  obtain ⟨hstructure, hserved⟩ := validate_eq_ok_iff.1 h
  obtain ⟨hone, hdistinct, hclosed⟩ := structure_of_accepted hstructure
  exact ⟨hone, hdistinct, hclosed, hserved⟩

/-! ## Positions -/

/-- A name that a node has is found in the list. -/
theorem exists_lastNamed {name : String} :
    ∀ (operations : List Node) (position : Nat), name ∈ operations.filterMap Node.name? →
      ∃ p, lastNamed name position operations = some p
  | [], _, h => absurd h List.not_mem_nil
  | n :: rest, position, h => by
    unfold lastNamed
    cases hrest : lastNamed name (position + 1) rest with
    | some p => exact ⟨p, rfl⟩
    | none =>
      rw [List.mem_filterMap] at h
      obtain ⟨m, hm, hname⟩ := h
      rcases List.mem_cons.1 hm with rfl | hmem
      · exact ⟨position, by rw [if_pos hname]⟩
      · obtain ⟨p, hp⟩ :=
          exists_lastNamed rest (position + 1) (List.mem_filterMap.2 ⟨m, hmem, hname⟩)
        rw [hp] at hrest
        cases hrest

/-- What is found under a name is a node of that name. -/
theorem lastNamed_name {name : String} :
    ∀ {operations : List Node} {position p : Nat}, lastNamed name position operations = some p →
      position ≤ p ∧ ∃ n, operations[p - position]? = some n ∧ n.name? = some name
  | [], _, _, h => by cases h
  | n :: rest, position, p, h => by
    unfold lastNamed at h
    split at h
    · rename_i q hq
      obtain rfl := Option.some.inj h
      obtain ⟨hle, m, hm, hname⟩ := lastNamed_name hq
      refine ⟨by omega, m, ?_, hname⟩
      rw [show q - position = q - (position + 1) + 1 from by omega, List.getElem?_cons_succ]
      exact hm
    · split at h
      · rename_i hname
        obtain rfl := Option.some.inj h
        refine ⟨Nat.le_refl _, n, ?_, hname⟩
        rw [Nat.sub_self]
        rfl
      · cases h

/-- A list with an ingress has a first one. -/
theorem exists_firstIngress :
    ∀ (operations : List Node) (position : Nat), operations.filterMap Node.ingress? ≠ [] →
      ∃ p i, firstIngress position operations = some (p, i)
  | [], _, h => absurd rfl h
  | .ingress i :: _, position, _ => ⟨position, i, rfl⟩
  | .process _ :: rest, position, h => exists_firstIngress rest (position + 1) h
  | .switch _ :: rest, position, h => exists_firstIngress rest (position + 1) h
  | .egress _ :: rest, position, h => exists_firstIngress rest (position + 1) h

/-- The first ingress of a list is a node of it. -/
theorem firstIngress_node :
    ∀ {operations : List Node} {position p : Nat} {i : Ingress},
      firstIngress position operations = some (p, i) →
        position ≤ p ∧ operations[p - position]? = some (.ingress i)
  | [], _, _, _, h => by cases h
  | .ingress j :: rest, position, p, i, h => by
    cases h
    rw [Nat.sub_self]
    exact ⟨Nat.le_refl _, rfl⟩
  | .process _ :: rest, position, p, i, h => later h
  | .switch _ :: rest, position, p, i, h => later h
  | .egress _ :: rest, position, p, i, h => later h
where
  later {rest : List Node} {position p : Nat} {i : Ingress} {n : Node}
      (h : firstIngress (position + 1) rest = some (p, i)) :
      position ≤ p ∧ (n :: rest)[p - position]? = some (.ingress i) := by
    obtain ⟨hle, hi⟩ := firstIngress_node h
    refine ⟨by omega, ?_⟩
    rw [show p - position = p - (position + 1) + 1 from by omega, List.getElem?_cons_succ]
    exact hi

/-- The node at a place is a node of the alignment. -/
theorem node_mem (a : Alignment) (place : Fin a.size) : a.node place ∈ a.operations :=
  List.get_mem _ _

/-- The node at a place is the one that is declared there. -/
theorem node_of_getElem? {a : Alignment} {place : Fin a.size} {n : Node}
    (h : a.operations[(place : Nat)]? = some n) : a.node place = n := by
  obtain ⟨hlt, hn⟩ := List.getElem?_eq_some_iff.1 h
  exact hn

/-- The place of entry is that of an ingress. -/
theorem ingress_of_entry {a : Alignment} {place : Fin a.size} (h : a.entry? = some place) :
    ∃ i, a.ingress? = some ((place : Nat), i) := by
  unfold entry? at h
  split at h
  · rename_i p i hp
    obtain rfl := Option.some.inj h
    exact ⟨i, hp⟩
  · cases h

/-- The place of a name is its position. -/
theorem position_of_resolve {a : Alignment} {name : String} {place : Fin a.size}
    (h : a.resolve? name = some place) : a.position? name = some (place : Nat) := by
  unfold resolve? at h
  split at h
  · rename_i p hp
    obtain rfl := Option.some.inj h
    exact hp
  · cases h

/-- The name of a node leads to a place. -/
theorem exists_resolve {a : Alignment} {name : String} (h : name ∈ a.nodeNames) :
    ∃ place, a.resolve? name = some place := by
  obtain ⟨p, hp⟩ := exists_lastNamed _ 0 h
  have hp : a.position? name = some p := hp
  unfold resolve?
  split
  · exact ⟨_, rfl⟩
  · rename_i hnone
    rw [hp] at hnone
    cases hnone

/-- The place that a name leads to holds a node of that name. -/
theorem name_of_resolve {a : Alignment} {name : String} {place : Fin a.size}
    (h : a.resolve? name = some place) : (a.node place).name? = some name := by
  unfold resolve? at h
  split at h
  · rename_i p hp
    obtain rfl := Option.some.inj h
    obtain ⟨-, n, hn, hname⟩ := lastNamed_name hp
    rw [node_of_getElem? (n := n) (by simpa using hn)]
    exact hname
  · cases h

/-- Where names are distinct, the place that a name leads to holds the node that it finds. -/
theorem find_of_resolve {a : Alignment} (distinct : a.nodeNames.Nodup) {name : String}
    {place : Fin a.size} (hplace : a.resolve? name = some place) :
    a.find? name = some (a.node place) := by
  have hmem := a.node_mem place
  have hname := name_of_resolve hplace
  cases hfind : a.find? name with
  | none =>
    have hnone := List.find?_eq_none.1 hfind _ hmem
    simp [hname] at hnone
  | some m =>
    have hm : m ∈ a.operations := List.mem_of_find?_eq_some hfind
    have hmname : m.name? = some name := by simpa using List.find?_some hfind
    rw [eq_of_nodup_filterMap distinct hm hmem hmname hname]

/-- The entry of an alignment is an ingress. -/
theorem node_of_entry {a : Alignment} {place : Fin a.size} (h : a.entry? = some place) :
    ∃ i, a.node place = .ingress i := by
  unfold entry? at h
  split at h
  · rename_i p i hp
    obtain rfl := Option.some.inj h
    obtain ⟨-, hi⟩ := firstIngress_node hp
    exact ⟨i, node_of_getElem? (by simpa using hi)⟩
  · cases h

/-- Where there is one ingress, it is found at its place. -/
theorem exists_ingress {a : Alignment}
    (h : (a.operations.filterMap Node.ingress?).length = 1) :
    ∃ (place : Fin a.size) (i : Ingress), a.ingress? = some ((place : Nat), i) ∧
      a.node place = .ingress i := by
  have hne : a.operations.filterMap Node.ingress? ≠ [] := by
    intro hnil
    rw [hnil] at h
    cases h
  obtain ⟨p, i, hp⟩ := exists_firstIngress _ 0 hne
  obtain ⟨-, hnode⟩ := firstIngress_node hp
  exact ⟨⟨p, ingress?_lt hp⟩, i, hp, node_of_getElem? hnode⟩

namespace Sound

variable {a : Alignment} {f : Foundry σ}

/-! ## What a run looks up -/

/-- There is an ingress to begin at. -/
theorem entry (h : a.Sound f) : ∃ place, a.entry? = some place := by
  obtain ⟨place, i, hi, -⟩ := exists_ingress h.oneIngress
  unfold entry?
  split
  · exact ⟨_, rfl⟩
  · rename_i hnone
    rw [hi] at hnone
    cases hnone

/-- An edge leads to a place. -/
theorem resolve (h : a.Sound f) {n : Node} (hn : n ∈ a.operations) {target : String}
    (htarget : target ∈ n.successors) : ∃ place, a.resolve? target = some place :=
  exists_resolve (h.closed n hn target htarget)

/-- A sound alignment has one ingress. -/
theorem ingress_unique (h : a.Sound f) {i j : Ingress} (hi : .ingress i ∈ a.operations)
    (hj : .ingress j ∈ a.operations) : i = j := by
  have hmem {k : Ingress} (hk : .ingress k ∈ a.operations) :
      k ∈ a.operations.filterMap Node.ingress? := List.mem_filterMap.2 ⟨_, hk, rfl⟩
  obtain ⟨only, honly⟩ := List.length_eq_one_iff.1 h.oneIngress
  have hi := hmem hi
  have hj := hmem hj
  rw [honly, List.mem_singleton] at hi hj
  rw [hi, hj]

/-- Nodes of one name in a sound alignment are one node. -/
theorem eq_of_name (h : a.Sound f) {n m : Node} {name : String} (hn : n ∈ a.operations)
    (hm : m ∈ a.operations) (hnname : n.name? = some name) (hmname : m.name? = some name) :
    n = m :=
  eq_of_nodup_filterMap h.distinct hn hm hnname hmname

/-- Nodes of a sound alignment that a run cannot tell apart are one node. -/
theorem eq_of_waypoint (h : a.Sound f) {n m : Node} (hn : n ∈ a.operations)
    (hm : m ∈ a.operations) (heq : n.waypoint = m.waypoint) : n = m := by
  have hnames : n.name? = m.name? := by rw [← Node.waypoint_name, heq, Node.waypoint_name]
  cases hname : n.name? with
  | some name => exact h.eq_of_name hn hm hname (hnames.symm.trans hname)
  | none =>
    obtain ⟨i, rfl⟩ := Node.eq_ingress_of_name hname
    obtain ⟨j, rfl⟩ := Node.eq_ingress_of_name (hnames.symm.trans hname)
    rw [h.ingress_unique hn hm]

/-- A waypoint belongs to the node that it was made for. -/
theorem nodeOf_node (h : a.Sound f) (place : Fin a.size) :
    a.nodeOf? (a.node place).waypoint = some (a.node place) := by
  have hmem := a.node_mem place
  cases hfind : a.nodeOf? (a.node place).waypoint with
  | none =>
    have hnone := List.find?_eq_none.1 hfind _ hmem
    simp at hnone
  | some m =>
    have hm : m ∈ a.operations := List.mem_of_find?_eq_some hfind
    have heq : m.waypoint = (a.node place).waypoint := by simpa using List.find?_some hfind
    rw [h.eq_of_waypoint hm hmem heq]

/-- The place that an edge leads to holds the node that the name of the edge finds. -/
theorem find_node (h : a.Sound f) {name : String} {place : Fin a.size}
    (hplace : a.resolve? name = some place) : a.find? name = some (a.node place) :=
  find_of_resolve h.distinct hplace

/-- A process finds a processor. -/
theorem processor (h : a.Sound f) {p : Process} (hp : .process p ∈ a.operations) :
    ∃ processor, f.processor? p.apparatus = some processor := by
  obtain ⟨processor, hprocessor⟩ := callFault?_processor.1 (h.served _ hp)
  unfold Foundry.processor?
  rw [hprocessor]
  exact ⟨processor, rfl⟩

/-- A switch finds a switcher. -/
theorem switcher (h : a.Sound f) {s : Switch} (hs : .switch s ∈ a.operations) :
    ∃ switcher, f.switcher? s.apparatus = some switcher := by
  obtain ⟨switcher, hswitcher⟩ := callFault?_switcher.1 (h.served _ hs)
  unfold Foundry.switcher?
  rw [hswitcher]
  exact ⟨switcher, rfl⟩

end Sound
end Alignment
end ApparatusGraph
