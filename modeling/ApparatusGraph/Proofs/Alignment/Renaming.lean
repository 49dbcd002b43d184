/-
# Addresses by other names

A renaming gives every address a name of its own.  It renames the registers of a run
(`Registers.rename`) and, in an alignment, wherever an address stands (`Alignment.rename`).  Names
of nodes, of apparatus and of vars are no addresses and stay as they are.

* What is read at an address is read at its new name, and writes keep their order, so several vars
  may share an address before and after (`Registers.read_rename`, `Registers.rename_writeAll`).
* Both scans of a visit go in the order of vars, not of addresses, so they stop at the same
  var (`Registers.gather_rename`, `Registers.scatter_rename`).
* Validation and the look-up of nodes do not look at addresses (`Alignment.validate_rename`,
  `Alignment.resolve?_rename`).
-/

import Mathlib.Logic.Function.Basic
import ApparatusGraph.Alignment.Validation
import ApparatusGraph.Trace.Waypoint
import ApparatusGraph.Proofs.Registers

namespace ApparatusGraph

variable {σ α β γ : Type}

/-! ## Maps -/

namespace Named

/-- The entries of a map with other values are the same entries with other values. -/
theorem entries_map (m : Named α) (g : α → β) :
    (m.map g).entries = m.entries.map (Prod.map id g) := by
  rw [← List.filterMap_eq_map]
  rfl

/-- Filtering a map with other values is filtering the map itself. -/
theorem filterMap_map (m : Named α) (g : α → β) (h : String → β → Option γ) :
    (m.map g).filterMap h = m.filterMap fun name a => h name (g a) := by
  refine ext_get? fun name => ?_
  rw [map, get?_filterMap, get?_filterMap, get?_filterMap, Option.bind_assoc]
  rfl

/-- The map with other names. -/
def rename (f : String → String) (m : Named α) : Named α :=
  ofList (m.entries.map (Prod.map f id))

variable {f : String → String}

/-- Under distinct new names a look-up finds what it found under the old ones. -/
theorem lookup_map (hf : f.Injective) (l : List (String × α)) (name : String) :
    (l.map (Prod.map f id)).lookup (f name) = l.lookup name := by
  induction l with
  | nil => rfl
  | cons e rest ih =>
    obtain ⟨first, a⟩ := e
    rw [List.map_cons, List.lookup_cons, List.lookup_cons, ih, Prod.map_apply]
    by_cases heq : name = first
    · rw [heq, beq_self_eq_true, beq_self_eq_true]
      rfl
    · rw [beq_false_of_ne heq, beq_false_of_ne (hf.ne heq)]

/-- What stands under a name stands under its new name. -/
theorem get?_rename (hf : f.Injective) (m : Named α) (name : String) :
    (m.rename f).get? (f name) = m.get? name := by
  rw [rename, get?_ofList, ← List.map_reverse, lookup_map hf, lookup_reverse m.increasing]
  rfl

/-- Nothing stands under any other name. -/
theorem get?_rename_eq_none {name : String} (h : ∀ other, f other ≠ name) (m : Named α) :
    (m.rename f).get? name = none := by
  rw [rename, get?_ofList, List.lookup_eq_none_iff]
  intro e he
  obtain ⟨⟨other, a⟩, -, rfl⟩ := List.mem_map.1 (List.mem_reverse.1 he)
  exact bne_iff_ne.2 (h other).symm

/-- An insertion can be renamed before it is made. -/
theorem rename_insert (hf : f.Injective) (m : Named α) (name : String) (a : α) :
    (m.insert name a).rename f = (m.rename f).insert (f name) a := by
  refine ext_get? fun x => ?_
  by_cases hx : ∃ other, f other = x
  · obtain ⟨other, rfl⟩ := hx
    rw [get?_rename hf, get?_insert, get?_insert, get?_rename hf]
    simp only [hf.eq_iff]
  · have hnone : ∀ other, f other ≠ x := fun other heq => hx ⟨other, heq⟩
    rw [get?_rename_eq_none hnone, get?_insert, if_neg (hnone name).symm,
      get?_rename_eq_none hnone]

end Named

/-! ## Registers -/

/-- The fault with the address in it renamed, if there is one. -/
def Fault.rename (f : Address → Address) : Fault → Fault
  | .unboundRegister node address => .unboundRegister node (f address)
  | fault => fault

/-- Only an unbound register has an address. -/
theorem Fault.rename_of_kind {f : Address → Address} {fault : Fault}
    (h : fault.kind ≠ .unboundRegister) : fault.rename f = fault := by
  cases fault with
  | unboundRegister node address => exact absurd rfl h
  | _ => rfl

namespace Registers

/-- The registers under other addresses. -/
def rename (f : Address → Address) (r : Registers) : Registers := ⟨r.slots.rename f, r.writes⟩

variable {f : Address → Address}

/-- A renamed register holds what it held. -/
theorem read_rename (hf : f.Injective) (r : Registers) (address : Address) :
    (r.rename f).read (f address) = r.read address := Named.get?_rename hf r.slots address

/-- A write can be renamed before it is made. -/
theorem rename_write (hf : f.Injective) (r : Registers) (address : Address) (p : Param) :
    (r.write address p).rename f = (r.rename f).write (f address) p := by
  unfold write rename
  rw [Named.rename_insert hf]

/-- Writes in a row can be renamed before they are made. -/
theorem rename_writeAll (hf : f.Injective) (r : Registers) (ws : List (Address × Param)) :
    (r.writeAll ws).rename f = (r.rename f).writeAll (ws.map (Prod.map f id)) := by
  induction ws generalizing r with
  | nil => rfl
  | cons w rest ih =>
    calc (r.writeAll (w :: rest)).rename f
        = ((r.write w.1 w.2).writeAll rest).rename f := rfl
      _ = ((r.write w.1 w.2).rename f).writeAll (rest.map (Prod.map f id)) := ih _
      _ = ((r.rename f).write (f w.1) w.2).writeAll (rest.map (Prod.map f id)) := by
          rw [rename_write hf]

/-- **The inputs of a node are gathered alike,** or the same of its registers is missing. -/
theorem gather_rename (hf : f.Injective) (r : Registers) (node : String) (b : Bindings)
    (c : Contract) :
    (r.rename f).gather node (b.map f) c = (r.gather node b c).mapError (Fault.rename f) := by
  have hlacks : (r.rename f).lacks c ∘ Prod.map id f = r.lacks c := by
    funext entry
    exact congrArg (fun found => Option.isNone found && !c.allowsAbsent entry.1)
      (read_rename hf r entry.2)
  have hrecord : (b.map f).filterMap (fun _ address => (r.rename f).read address) =
      b.filterMap fun _ address => r.read address := by
    simp only [Named.filterMap_map, read_rename hf]
  unfold gather
  rw [Named.entries_map, List.find?_map, hlacks, hrecord]
  cases b.entries.find? (r.lacks c) <;> rfl

/-- The writes of renamed bindings are the renamed writes. -/
theorem writesOf_rename (b : Bindings) (output : Record) :
    writesOf (b.map f) output = (writesOf b output).map (Prod.map f id) := by
  unfold writesOf
  rw [Named.entries_map, List.filterMap_map, List.map_filterMap]
  refine List.filterMap_congr fun entry _ => ?_
  cases h : output.get? entry.1 <;> simp [h]

/-- **The outputs of a node are scattered alike,** or the same of its vars is missing. -/
theorem scatter_rename (hf : f.Injective) (r : Registers) (node : String) (b : Bindings)
    (output : Record) (c : Contract) :
    (r.rename f).scatter node (b.map f) output c =
      ((r.scatter node b output c).1.mapError (Fault.rename f),
        (r.scatter node b output c).2.rename f) := by
  rw [scatter_eq, scatter_eq, Named.entries_map, List.find?_map, writesOf_rename,
    ← rename_writeAll hf]
  have hlacks : output.lacks c ∘ Prod.map id f = output.lacks c := rfl
  rw [hlacks]
  cases b.entries.find? (output.lacks c) <;> rfl

end Registers

/-! ## Nodes -/

/-- The ingress under other addresses. -/
def Ingress.rename (f : Address → Address) (i : Ingress) : Ingress :=
  { i with promptAddr := f i.promptAddr, fileAddrs := i.fileAddrs.map f }

/-- The process under other addresses. -/
def Process.rename (f : Address → Address) (p : Process) : Process :=
  { p with inputs := p.inputs.map f, outputs := p.outputs.map f }

/-- The switch under other addresses. -/
def Switch.rename (f : Address → Address) (s : Switch) : Switch :=
  { s with
    inputs := s.inputs.map f
    outputsWhenTrue := s.outputsWhenTrue.map f
    outputsWhenFalse := s.outputsWhenFalse.map f }

/-- The egress under other addresses. -/
def Egress.rename (f : Address → Address) (e : Egress) : Egress :=
  { e with result := e.result.map f }

namespace Node

/-- The node under other addresses. -/
def rename (f : Address → Address) : Node → Node
  | ingress i => ingress (i.rename f)
  | process p => process (p.rename f)
  | switch s => switch (s.rename f)
  | egress e => egress (e.rename f)

variable {f : Address → Address} (n : Node)

@[simp] theorem name?_rename : (n.rename f).name? = n.name? := by cases n <;> rfl

@[simp] theorem label_rename : (n.rename f).label = n.label := by cases n <;> rfl

@[simp] theorem successors_rename : (n.rename f).successors = n.successors := by cases n <;> rfl

@[simp] theorem waypoint_rename : (n.rename f).waypoint = n.waypoint := by cases n <;> rfl

@[simp] theorem ingress?_rename : (n.rename f).ingress? = n.ingress?.map (·.rename f) := by
  cases n <;> rfl

@[simp] theorem egress?_rename : (n.rename f).egress? = n.egress?.map (·.rename f) := by
  cases n <;> rfl

end Node

/-! ## Alignments -/

namespace Alignment

/-- The alignment under other addresses. -/
def rename (f : Address → Address) (a : Alignment) : Alignment := ⟨a.operations.map (·.rename f)⟩

variable {f : Address → Address} {a : Alignment}

/-- The nodes of a renamed alignment are the renamed nodes. -/
theorem operations_rename : (a.rename f).operations = a.operations.map (·.rename f) := rfl

/-- A renamed alignment has as many nodes. -/
theorem size_rename : (a.rename f).size = a.size := List.length_map ..

/-- A place in the alignment under other addresses. -/
def renamed (f : Address → Address) (place : Fin a.size) : Fin (a.rename f).size :=
  place.cast size_rename.symm

/-- Renaming leaves places where they are. -/
theorem eq_map_renamed {x : Option (Fin a.size)} {y : Option (Fin (a.rename f).size)}
    (h : y.map Fin.val = x.map Fin.val) : y = x.map (renamed f) := by
  refine Option.map_injective (fun _ _ => Fin.ext) ?_
  rw [h, Option.map_map]
  rfl

/-- The nodes of a renamed alignment stand at the same places. -/
theorem node_renamed (place : Fin a.size) :
    (a.rename f).node (renamed f place) = (a.node place).rename f := List.getElem_map ..

/-- A name has the same position under other addresses. -/
theorem lastNamed_rename (name : String) (position : Nat) (operations : List Node) :
    lastNamed name position (operations.map (·.rename f)) = lastNamed name position operations := by
  induction operations generalizing position with
  | nil => rfl
  | cons n rest ih => simp only [List.map_cons, lastNamed, ih, Node.name?_rename]

/-- The place of a name is its position. -/
theorem resolve?_val (a : Alignment) (name : String) :
    (a.resolve? name).map Fin.val = a.position? name := by
  unfold resolve?
  split
  · rename_i hp
    exact hp.symm
  · rename_i hnone
    exact hnone.symm

/-- An edge leads to the same place. -/
theorem resolve?_rename (name : String) :
    (a.rename f).resolve? name = (a.resolve? name).map (renamed f) := by
  have hposition : (a.rename f).position? name = a.position? name := lastNamed_rename name 0 _
  exact eq_map_renamed (by rw [resolve?_val, resolve?_val, hposition])

/-- The first ingress has the same position under other addresses. -/
theorem firstIngress_rename (position : Nat) (operations : List Node) :
    firstIngress position (operations.map (·.rename f)) =
      (firstIngress position operations).map (Prod.map id (·.rename f)) := by
  induction operations generalizing position with
  | nil => rfl
  | cons n rest ih =>
    cases n with
    | ingress i => rfl
    | process p => exact ih (position + 1)
    | switch s => exact ih (position + 1)
    | egress e => exact ih (position + 1)

/-- The ingress of a renamed alignment is the renamed ingress, at the same position. -/
theorem ingress?_rename :
    (a.rename f).ingress? = a.ingress?.map (Prod.map id (·.rename f)) :=
  firstIngress_rename 0 a.operations

/-- The place of entry is the position of the ingress. -/
theorem entry?_val (a : Alignment) : a.entry?.map Fin.val = a.ingress?.map (·.1) := by
  unfold entry?
  split
  · rename_i hp
    exact congrArg (Option.map (·.1)) hp.symm
  · rename_i hnone
    exact congrArg (Option.map (·.1)) hnone.symm

/-- The run begins at the same place. -/
theorem entry?_rename : entry? (a.rename f) = a.entry?.map (renamed f) := by
  refine eq_map_renamed ?_
  rw [entry?_val, entry?_val, ingress?_rename, Option.map_map]
  rfl

/-! ## Validation -/

/-- The names of nodes do not depend on addresses. -/
theorem nameFaultAfter_rename (seen : List String) (position : Nat) (operations : List Node) :
    nameFaultAfter seen position (operations.map (·.rename f)) =
      nameFaultAfter seen position operations := by
  induction operations generalizing seen position with
  | nil => rfl
  | cons n rest ih => simp only [List.map_cons, nameFaultAfter, ih, Node.name?_rename]

/-- The structure of an alignment does not depend on addresses. -/
theorem structureFault?_rename : (a.rename f).structureFault? = a.structureFault? := by
  have hnames : (a.rename f).nodeNames = a.nodeNames := by
    simp only [nodeNames, operations_rename, List.filterMap_map, Function.comp_def, Node.name?_rename]
  have hingress : (a.rename f).ingressFault? = a.ingressFault? := by
    have hlength : ((a.rename f).operations.filterMap Node.ingress?).length =
        (a.operations.filterMap Node.ingress?).length := by
      simp only [operations_rename, List.filterMap_map, Function.comp_def, Node.ingress?_rename,
        ← List.map_filterMap, List.length_map]
    unfold ingressFault?
    rw [hlength]
  have hegress : (a.rename f).egressFault? = a.egressFault? := by
    have hempty : (a.rename f).egresses.isEmpty = a.egresses.isEmpty := by
      simp only [egresses, operations_rename, List.filterMap_map, Function.comp_def,
        Node.egress?_rename, ← List.map_filterMap, List.isEmpty_map]
    unfold egressFault?
    rw [hempty]
  have hname : (a.rename f).nameFault? = a.nameFault? := nameFaultAfter_rename [] 0 a.operations
  have hfile : (a.rename f).fileFault? = a.fileFault? := by
    unfold fileFault?
    rw [ingress?_rename]
    cases a.ingress? with
    | none => rfl
    | some found => simp only [Option.map_some, Prod.map_snd, Ingress.rename, List.length_map]
  have hedge : (a.rename f).edgeFault? = a.edgeFault? := by
    unfold edgeFault?
    rw [hnames]
    simp only [operations_rename, List.findSome?_map, Function.comp_def, Node.successors_rename,
      Node.label_rename]
  unfold structureFault?
  rw [hingress, hegress, hname, hfile, hedge]

/-- **Validation finds the same fault.** -/
theorem validate_rename (g : Foundry σ) : (a.rename f).validate g = a.validate g := by
  have hnode : nodeFault? g ∘ Node.rename f = nodeFault? g := by
    funext n
    cases n <;> rfl
  unfold validate fault?
  rw [structureFault?_rename, operations_rename, List.findSome?_map, hnode]

end Alignment
end ApparatusGraph
