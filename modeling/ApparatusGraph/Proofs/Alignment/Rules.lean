/-
# The rules of validation

Validation has six groups of rules and an order in which it checks them (`Rule.all`).  What a
rule asks of an alignment (`Alignment.Obeys`) and the fault by which it is reported when it
is broken (`Alignment.Breaks`) are said without regard to how the checks are made:

| rule | asks for | reported is |
| --- | --- | --- |
| `ingress` | one ingress | that there is none, or how many there are |
| `egress` | an egress | that there is none |
| `names` | names that are not blank and differ | the first node with a blank or repeated name |
| `files` | at most five file addresses | how many there are |
| `edges` | edges that name nodes | the first edge that does not |
| `apparatus` | apparatus of the right kind | the first node without it |

`FirstAt` is what first means here.  Each check finds what the rule reports
(`Alignment.Checks`), and validation is the first check that finds anything
(`Alignment.fault?_eq_findSome?`).  The check of the file addresses looks at the first ingress alone,
so it speaks for the rule only where there is one ingress, which the first rule ensures.
-/

import ApparatusGraph.Proofs.Alignment.Declaration
import ApparatusGraph.Proofs.FirstAt

namespace ApparatusGraph

variable {σ : Type}

/-! ## Rules -/

/-- A group of rules. -/
inductive Rule where
  | ingress
  | egress
  | names
  | files
  | edges
  | apparatus

/-- The groups in the order in which they are checked. -/
def Rule.all : List Rule := [.ingress, .egress, .names, .files, .edges, .apparatus]

/-- The group of the ingress comes before every other. -/
theorem Rule.ingress_mem {before after : List Rule} {rule : Rule}
    (h : Rule.all = before ++ rule :: after) (hne : before ≠ []) : .ingress ∈ before := by
  cases before with
  | nil => exact absurd rfl hne
  | cons first rest =>
    obtain ⟨rfl, -⟩ := List.cons.inj h
    exact List.mem_cons_self

/-- What a node calls: its own name, the name of the apparatus, and the kind that it must be of. -/
def Node.call? : Node → Option (String × String × ApparatusKind)
  | process p => some (p.name, p.apparatus, .processor)
  | switch s => some (s.name, s.apparatus, .switcher)
  | _ => none

/-- A foundry does not have what a node calls. -/
def Node.Miscalls (f : Foundry σ) (n : Node) : Prop :=
  ∃ node apparatus kind, n.call? = some (node, apparatus, kind) ∧
    ∀ x, f.get? apparatus = some x → x.kind ≠ kind

namespace Alignment

/-- The number of ingress nodes. -/
def ingressCount (a : Alignment) : Nat := a.operations.countP fun n => n.ingress?.isSome

/-- A name is that of a node. -/
def Names (a : Alignment) (name : String) : Prop := ∃ n ∈ a.operations, n.name? = some name

/-- The name of a node is blank, or that of a node before its position. -/
def Misnamed (a : Alignment) (k : Nat) (n : Node) : Prop :=
  ∃ name, n.name? = some name ∧ (Text.isBlankText name = true ∨
    ∃ j m, j < k ∧ a.operations[j]? = some m ∧ m.name? = some name)

/-- The edges in order of declaration, each with the label of its node. -/
def edges (a : Alignment) : List (String × String) :=
  a.operations.flatMap fun n => n.successors.map (n.label, ·)

/-- What a rule asks of an alignment and a foundry. -/
def Obeys (a : Alignment) (f : Foundry σ) : Rule → Prop
  | .ingress => a.ingressCount = 1
  | .egress => ∃ x, .egress x ∈ a.operations
  | .names => (∀ name, a.Names name → Text.isBlankText name = false) ∧ a.nodeNames.Nodup
  | .files => ∀ i, .ingress i ∈ a.operations → i.fileAddrs.length ≤ 5
  | .edges => ∀ n ∈ a.operations, ∀ target ∈ n.successors, a.Names target
  | .apparatus =>
    (∀ p, .process p ∈ a.operations →
      ∃ processor, f.get? p.apparatus = some (.processor processor)) ∧
    ∀ s, .switch s ∈ a.operations → ∃ switcher, f.get? s.apparatus = some (.switcher switcher)

/-- The fault by which a broken rule is reported. -/
inductive Breaks (a : Alignment) (f : Foundry σ) : Rule → Fault → Prop where
  | missingIngress (none : a.ingressCount = 0) : Breaks a f .ingress (.structural .missingIngress)
  | duplicateIngress (several : 2 ≤ a.ingressCount) :
      Breaks a f .ingress (.structural (.duplicateIngress a.ingressCount))
  | missingEgress (none : ∀ x, .egress x ∉ a.operations) :
      Breaks a f .egress (.structural .missingEgress)
  | emptyName {k n name} (first : FirstAt a.Misnamed a.operations k n)
      (named : n.name? = some name) (blank : Text.isBlankText name = true) :
      Breaks a f .names (.structural (.emptyName k))
  | duplicateName {k n name} (first : FirstAt a.Misnamed a.operations k n)
      (named : n.name? = some name) (visible : Text.isBlankText name = false) :
      Breaks a f .names (.structural (.duplicateName name))
  | tooManyFileAddresses {i} (declared : .ingress i ∈ a.operations)
      (many : 5 < i.fileAddrs.length) :
      Breaks a f .files (.structural (.tooManyFileAddresses i.fileAddrs.length 5))
  | unresolvedReference {k node target}
      (first : FirstAt (fun _ edge => ¬a.Names edge.2) a.edges k (node, target)) :
      Breaks a f .edges (.structural (.unresolvedReference node target))
  | unknownApparatus {k n node apparatus kind}
      (first : FirstAt (fun _ m => m.Miscalls f) a.operations k n)
      (call : n.call? = some (node, apparatus, kind)) (unknown : f.get? apparatus = none) :
      Breaks a f .apparatus (.unknownApparatus node apparatus)
  | kindMismatch {k n node apparatus kind x}
      (first : FirstAt (fun _ m => m.Miscalls f) a.operations k n)
      (call : n.call? = some (node, apparatus, kind)) (found : f.get? apparatus = some x) :
      Breaks a f .apparatus (.structural (.kindMismatch node apparatus kind))

/-! ## Checks -/

/-- The check of one rule. -/
def ruleFault? (a : Alignment) (f : Foundry σ) : Rule → Option Fault
  | .ingress => a.ingressFault?.map .structural
  | .egress => a.egressFault?.map .structural
  | .names => a.nameFault?.map .structural
  | .files => a.fileFault?.map .structural
  | .edges => a.edgeFault?.map .structural
  | .apparatus => a.operations.findSome? (nodeFault? f)

/-- **Validation is the first check that finds a fault.** -/
theorem fault?_eq_findSome? (a : Alignment) (f : Foundry σ) :
    a.fault? f = Rule.all.findSome? (a.ruleFault? f) := by
  simp only [fault?, structureFault?, Rule.all, List.findSome?_cons, List.findSome?_nil, ruleFault?]
  cases a.ingressFault? <;> cases a.egressFault? <;> cases a.nameFault? <;>
    cases a.fileFault? <;> cases a.edgeFault? <;>
    cases a.operations.findSome? (nodeFault? f) <;> rfl

/-- A check finds nothing where the rule is obeyed, and else the fault by which it is reported. -/
structure Checks (a : Alignment) (f : Foundry σ) (rule : Rule) : Prop where
  obeys : a.ruleFault? f rule = none ↔ a.Obeys f rule
  breaks : ∀ fault, a.ruleFault? f rule = some fault ↔ a.Breaks f rule fault

variable {a : Alignment} {f : Foundry σ}

/-- The names of an alignment are those in the list of its names. -/
theorem names_iff {name : String} : a.Names name ↔ name ∈ a.nodeNames := List.mem_filterMap.symm

/-- The number of ingresses is checked by its rule. -/
theorem checks_ingress : a.Checks f .ingress := by
  have hcount : a.ingressCount = (a.operations.filterMap Node.ingress?).length :=
    List.length_filterMap_eq_countP.symm
  refine ⟨?_, fun fault => ?_⟩
  · show a.ingressFault?.map _ = none ↔ a.ingressCount = 1
    rw [Option.map_eq_none_iff, ingressFault?_eq_none_iff, hcount]
  · show a.ingressFault?.map _ = some fault ↔ _
    unfold ingressFault?
    rw [← hcount]
    constructor
    · rcases hc : a.ingressCount with _ | _ | count
      · rintro ⟨⟩
        exact .missingIngress hc
      · exact nofun
      · rintro ⟨⟩
        exact hc ▸ .duplicateIngress (by omega)
    · rintro (hnone | hseveral)
      · rw [hnone]
        rfl
      · obtain ⟨count, hc⟩ := Nat.exists_eq_add_of_le' hseveral
        rw [hc]
        rfl

/-- The number of egresses is checked by its rule. -/
theorem checks_egress : a.Checks f .egress := by
  refine ⟨Option.map_eq_none_iff.trans egressFault?_eq_none_iff, fun fault => ?_⟩
  show a.egressFault?.map _ = some fault ↔ _
  have hnone : a.egresses.isEmpty = true ↔ ∀ x, .egress x ∉ a.operations := by
    simp only [List.isEmpty_iff, List.eq_nil_iff_forall_not_mem, mem_egresses]
  unfold egressFault?
  constructor
  · split <;> rename_i h
    · rintro ⟨⟩
      exact .missingEgress (hnone.1 h)
    · exact nofun
  · rintro (_ | _ | habsent)
    rw [if_pos (hnone.2 habsent)]
    rfl

/-! ### Names -/

/-- The name of a node is blank, among the names seen before a list, or that of a node before its
position in the list. -/
def MisnamedAfter (seen : List String) (operations : List Node) (k : Nat) (n : Node) : Prop :=
  ∃ name, n.name? = some name ∧ (Text.isBlankText name = true ∨ name ∈ seen ∨
    ∃ j m, j < k ∧ operations[j]? = some m ∧ m.name? = some name)

/-- Past the head of a list, its name has been seen. -/
theorem misnamedAfter_cons (seen : List String) (n : Node) (rest : List Node) :
    (fun k => MisnamedAfter seen (n :: rest) (k + 1)) =
      MisnamedAfter (n.name?.toList ++ seen) rest := by
  funext k m
  refine propext (exists_congr fun name => and_congr_right fun _ => or_congr_right ?_)
  rw [List.mem_append, Option.mem_toList]
  constructor
  · rintro (hseen | ⟨j, p, hj, hp, hname⟩)
    · exact .inl (.inr hseen)
    · cases j with
      | zero =>
        obtain rfl := Option.some.inj hp
        exact .inl (.inl hname)
      | succ j => exact .inr ⟨j, p, Nat.lt_of_succ_lt_succ hj, hp, hname⟩
  · rintro ((hname | hseen) | ⟨j, p, hj, hp, hname⟩)
    · exact .inr ⟨0, n, Nat.succ_pos k, rfl, hname⟩
    · exact .inl hseen
    · exact .inr ⟨j + 1, p, Nat.succ_lt_succ hj, hp, hname⟩

/-- The fault of a node whose name is refused. -/
def nameCause (position : Nat) (name : String) : StructuralFault :=
  if Text.isBlankText name then .emptyName position else .duplicateName name

/-- **The scan of the names finds the first that is refused.** -/
theorem nameFaultAfter_eq_some_iff {cause : StructuralFault} :
    ∀ {operations : List Node} {seen : List String} {position : Nat},
      nameFaultAfter seen position operations = some cause ↔
        ∃ k n, FirstAt (MisnamedAfter seen operations) operations k n ∧
          ∃ name, n.name? = some name ∧ cause = nameCause (position + k) name
  | [], _, _ => ⟨nofun, fun ⟨_, _, h, _⟩ => absurd h FirstAt.not_nil⟩
  | n :: rest, seen, position => by
    have hrest (seen : List String) : nameFaultAfter seen (position + 1) rest = some cause ↔
        ∃ k m, FirstAt (MisnamedAfter seen rest) rest k m ∧
          ∃ name, m.name? = some name ∧ cause = nameCause (position + (k + 1)) name := by
      rw [nameFaultAfter_eq_some_iff]
      simp only [Nat.add_assoc, Nat.add_comm 1]
    unfold nameFaultAfter
    cases hname : n.name? with
    | none =>
      have hfine : ¬MisnamedAfter seen (n :: rest) 0 n := by
        rintro ⟨name, hsome, -⟩
        rw [hname] at hsome
        cases hsome
      rw [FirstAt.exists_cons_of_not hfine, misnamedAfter_cons, hname]
      exact hrest seen
    | some name =>
      dsimp only
      split
      · rename_i hblank
        rw [FirstAt.exists_cons_of ⟨name, hname, .inl hblank⟩, hname]
        simp only [Option.some.injEq, exists_eq_left', nameCause, if_pos hblank, Nat.add_zero]
        exact eq_comm
      · rename_i hvisible
        split
        · rename_i hseen
          rw [FirstAt.exists_cons_of ⟨name, hname, .inr (.inl hseen)⟩, hname]
          simp only [Option.some.injEq, exists_eq_left', nameCause, if_neg hvisible]
          exact eq_comm
        · rename_i hfresh
          have hfine : ¬MisnamedAfter seen (n :: rest) 0 n := by
            rintro ⟨other, hsome, hblank | hseen | ⟨j, -, hj, -⟩⟩
            · rw [hname] at hsome
              cases hsome
              exact hvisible hblank
            · rw [hname] at hsome
              cases hsome
              exact hfresh hseen
            · exact Nat.not_lt_zero j hj
          rw [FirstAt.exists_cons_of_not hfine, misnamedAfter_cons, hname]
          exact hrest (name :: seen)

/-- Before a list no names have been seen. -/
theorem misnamedAfter_nil (a : Alignment) :
    MisnamedAfter [] a.operations = a.Misnamed := by
  funext k n
  simp only [MisnamedAfter, Misnamed, List.not_mem_nil, false_or]

/-- Names are checked by their rule. -/
theorem checks_names : a.Checks f .names := by
  refine ⟨?_, fun fault => ?_⟩
  · show a.nameFault?.map _ = none ↔ _
    rw [Option.map_eq_none_iff]
    unfold nameFault?
    rw [nameFaultAfter_eq_none_iff, and_comm]
    simp only [Obeys, names_iff, List.not_mem_nil, not_false_eq_true, and_true]
    rfl
  · show a.nameFault?.map _ = some fault ↔ _
    rw [Option.map_eq_some_iff]
    unfold nameFault?
    simp only [nameFaultAfter_eq_some_iff, misnamedAfter_nil, Nat.zero_add]
    constructor
    · rintro ⟨cause, ⟨k, n, hfirst, name, hname, rfl⟩, rfl⟩
      unfold nameCause
      split <;> rename_i hblank
      · exact .emptyName hfirst hname hblank
      · exact .duplicateName hfirst hname (Bool.eq_false_iff.2 hblank)
    · rintro (_ | _ | _ | ⟨hfirst, hname, hblank⟩ | ⟨hfirst, hname, hvisible⟩)
      · exact ⟨_, ⟨_, _, hfirst, _, hname, rfl⟩, by rw [nameCause, if_pos hblank]⟩
      · exact ⟨_, ⟨_, _, hfirst, _, hname, rfl⟩, by rw [nameCause, hvisible]; rfl⟩

/-! ### File addresses, edges and apparatus -/

/-- Where there is one ingress, the check of the file addresses is about it. -/
theorem checks_files (h : a.Obeys f .ingress) : a.Checks f .files := by
  have hcount : (a.operations.filterMap Node.ingress?).length = 1 :=
    List.length_filterMap_eq_countP.trans h
  obtain ⟨i, hi⟩ := List.length_eq_one_iff.1 hcount
  have hmem (j : Ingress) : .ingress j ∈ a.operations ↔ j = i := by
    rw [← List.mem_singleton, ← hi, List.mem_filterMap]
    constructor
    · exact fun hj => ⟨_, hj, rfl⟩
    · rintro ⟨n, hn, hj⟩
      cases n with
      | ingress k =>
        cases hj
        exact hn
      | process p => cases hj
      | switch s => cases hj
      | egress x => cases hj
  obtain ⟨p, j, hfound⟩ : ∃ p j, a.ingress? = some (p, j) :=
    exists_firstIngress _ 0 (by rw [hi]; exact List.cons_ne_nil _ _)
  obtain rfl : j = i := (hmem j).1 (List.mem_of_getElem? (firstIngress_node hfound).2)
  have hcheck : a.fileFault? = if 5 < j.fileAddrs.length then
      some (.tooManyFileAddresses j.fileAddrs.length 5) else none := by
    unfold fileFault?
    rw [hfound]
    rfl
  refine ⟨?_, fun fault => ?_⟩
  · show a.fileFault?.map _ = none ↔ ∀ i, .ingress i ∈ a.operations → i.fileAddrs.length ≤ 5
    rw [hcheck]
    simp only [hmem, forall_eq]
    split <;> simp <;> omega
  · show a.fileFault?.map _ = some fault ↔ _
    rw [hcheck]
    constructor
    · split <;> rename_i hmany
      · rintro ⟨⟩
        exact .tooManyFileAddresses ((hmem j).2 rfl) hmany
      · exact nofun
    · rintro (_ | _ | _ | _ | _ | ⟨hdeclared, hmany⟩)
      obtain rfl := (hmem _).1 hdeclared
      rw [if_pos hmany]
      rfl

/-- The check of the edges finds the first that does not name a node. -/
theorem edgeFault?_eq_find? (a : Alignment) :
    a.edgeFault? = (a.edges.find? (·.2 ∉ a.nodeNames)).map fun edge =>
      .unresolvedReference edge.1 edge.2 := by
  unfold edgeFault? edges
  rw [List.find?_flatMap, List.map_findSome?]
  congr 1
  funext n
  rw [Function.comp, List.find?_map, Option.map_map]
  rfl

/-- Edges are checked by their rule. -/
theorem checks_edges : a.Checks f .edges := by
  refine ⟨?_, fun fault => ?_⟩
  · show a.edgeFault?.map _ = none ↔ ∀ n ∈ a.operations, ∀ target ∈ n.successors, a.Names target
    rw [Option.map_eq_none_iff, edgeFault?_eq_none_iff]
    simp only [names_iff]
  · show a.edgeFault?.map _ = some fault ↔ _
    rw [edgeFault?_eq_find?, Option.map_map, Option.map_eq_some_iff]
    simp only [find?_eq_some_iff_firstAt, decide_eq_true_eq, ← names_iff]
    constructor
    · rintro ⟨edge, ⟨k, hfirst⟩, rfl⟩
      exact .unresolvedReference hfirst
    · rintro (_ | _ | _ | _ | _ | _ | hfirst)
      exact ⟨_, ⟨_, hfirst⟩, rfl⟩

/-- A node is refused for what it calls. -/
theorem nodeFault?_eq_bind (f : Foundry σ) (n : Node) :
    nodeFault? f n = n.call?.bind fun call => callFault? f call.1 call.2.1 call.2.2 := by
  cases n <;> rfl

/-- The call of a node is at fault exactly when its apparatus is missing or of the other kind. -/
theorem nodeFault?_ne_none_iff {n : Node} : nodeFault? f n ≠ none ↔ n.Miscalls f := by
  rw [nodeFault?_eq_bind, ne_eq, Option.bind_eq_none_iff]
  simp only [callFault?_eq_none_iff, Node.Miscalls]
  constructor
  · intro h
    obtain ⟨⟨node, apparatus, kind⟩, hcall, hwrong⟩ : ∃ call, n.call? = some call ∧
        ¬∃ x, f.get? call.2.1 = some x ∧ x.kind = call.2.2 := by
      simpa only [Classical.not_forall, exists_prop] using h
    exact ⟨node, apparatus, kind, hcall, fun x hx hkind => hwrong ⟨x, hx, hkind⟩⟩
  · rintro ⟨node, apparatus, kind, hcall, hwrong⟩ h
    obtain ⟨x, hx, hkind⟩ := h _ hcall
    exact hwrong x hx hkind

/-- Apparatus are checked by their rule. -/
theorem checks_apparatus : a.Checks f .apparatus := by
  refine ⟨?_, fun fault => ?_⟩
  · show a.operations.findSome? _ = none ↔ _
    rw [List.findSome?_eq_none_iff]
    constructor
    · intro h
      exact ⟨fun p hp => callFault?_processor.1 (h _ hp),
        fun s hs => callFault?_switcher.1 (h _ hs)⟩
    · rintro ⟨hprocess, hswitch⟩ n hn
      cases n with
      | ingress i => rfl
      | process p => exact callFault?_processor.2 (hprocess p hn)
      | switch s => exact callFault?_switcher.2 (hswitch s hn)
      | egress x => rfl
  · show a.operations.findSome? _ = some fault ↔ _
    rw [findSome?_eq_some_iff_firstAt]
    simp only [nodeFault?_ne_none_iff]
    constructor
    · rintro ⟨k, n, hfirst, hfault⟩
      rw [nodeFault?_eq_bind, Option.bind_eq_some_iff] at hfault
      obtain ⟨⟨node, apparatus, kind⟩, hcall, hfault⟩ := hfault
      unfold callFault? at hfault
      split at hfault
      · rename_i hunknown
        cases hfault
        exact .unknownApparatus hfirst hcall hunknown
      · rename_i x hfound
        split at hfault
        · cases hfault
        · cases hfault
          exact .kindMismatch hfirst hcall hfound
    · rintro (_ | _ | _ | _ | _ | _ | _ | ⟨hfirst, hcall, hunknown⟩ | ⟨hfirst, hcall, hfound⟩)
      · refine ⟨_, _, hfirst, ?_⟩
        rw [nodeFault?_eq_bind, hcall, Option.bind_some, callFault?, hunknown]
      · refine ⟨_, _, hfirst, ?_⟩
        obtain ⟨node, apparatus, kind, hown, hwrong⟩ := hfirst.holds
        rw [hcall] at hown
        cases hown
        rw [nodeFault?_eq_bind, hcall, Option.bind_some, callFault?, hfound]
        exact if_neg (hwrong _ hfound)

/-- Where there is one ingress, every check does what its rule says. -/
theorem checks (h : a.Obeys f .ingress) : ∀ rule, a.Checks f rule
  | .ingress => checks_ingress
  | .egress => checks_egress
  | .names => checks_names
  | .files => checks_files h
  | .edges => checks_edges
  | .apparatus => checks_apparatus

/-! ## Validation -/

/-- An alignment is valid when no check finds a fault. -/
theorem validate_eq_ok_iff_fault? : a.validate f = .ok () ↔ a.fault? f = none := by
  unfold validate
  cases a.fault? f <;> simp

/-- An alignment is refused for the fault that its checks find. -/
theorem validate_eq_error_iff_fault? {fault : Fault} :
    a.validate f = .error fault ↔ a.fault? f = some fault := by
  unfold validate
  cases a.fault? f <;> simp

/-- **Validation decides its rules and reports the first that is broken.**  It accepts what obeys
all six, and a fault is that of the first broken rule, all rules before it being obeyed. -/
theorem validate_reports_first (a : Alignment) (f : Foundry σ) :
    (a.validate f = .ok () ↔ ∀ rule, a.Obeys f rule) ∧
    ∀ fault, a.validate f = .error fault ↔
      ∃ before rule after, Rule.all = before ++ rule :: after ∧
        (∀ earlier ∈ before, a.Obeys f earlier) ∧ a.Breaks f rule fault := by
  rw [validate_eq_ok_iff_fault?, fault?_eq_findSome?]
  refine ⟨?_, fun fault => ?_⟩
  · rw [List.findSome?_eq_none_iff]
    constructor
    · intro h rule
      have hone : a.Obeys f .ingress := checks_ingress.obeys.1 (h _ List.mem_cons_self)
      exact (checks hone rule).obeys.1 (h rule (by cases rule <;> simp [Rule.all]))
    · exact fun h rule _ => (checks (h .ingress) rule).obeys.2 (h rule)
  · rw [validate_eq_error_iff_fault?, fault?_eq_findSome?, List.findSome?_eq_some_iff]
    refine exists_congr fun before => exists_congr fun rule => exists_congr fun after =>
      and_congr_right fun hall => ?_
    rw [and_comm]
    by_cases hne : before = []
    · -- Nothing comes before the rule of the ingress, whose check needs no other.
      subst hne
      obtain ⟨rfl, -⟩ := List.cons.inj hall
      simp only [List.not_mem_nil, false_implies, implies_true, true_and]
      exact checks_ingress.breaks fault
    · have hfirst := Rule.ingress_mem hall hne
      constructor
      · rintro ⟨hbefore, hfault⟩
        have hchecks := checks (checks_ingress.obeys.1 (hbefore _ hfirst))
        exact ⟨fun earlier hmem => (hchecks earlier).obeys.1 (hbefore earlier hmem),
          (hchecks rule).breaks fault |>.1 hfault⟩
      · rintro ⟨hbefore, hbreaks⟩
        have hchecks := checks (hbefore _ hfirst)
        exact ⟨fun earlier hmem => (hchecks earlier).obeys.2 (hbefore earlier hmem),
          (hchecks rule).breaks fault |>.2 hbreaks⟩

/-- A blank name counts before a repeated one further on, and both before the edges. -/
example : (Alignment.mk [.ingress ⟨"nowhere", "prompt", []⟩, .egress ⟨" ", ∅⟩, .egress ⟨"out", ∅⟩,
    .egress ⟨"out", ∅⟩]).validate (∅ : Foundry Unit) = .error (.structural (.emptyName 1)) := by
  rfl

end Alignment
end ApparatusGraph
