/-
# What a visit does

`Operator.Visits` lists how the visit of a node can go, and `Operator.visits_visit`
says that the list is complete.  On a sound alignment two facts follow that hold for
all four kinds of nodes:

* a complete visit has read the sources of its node, written its sinks and taken its
  edge (`Node.Completes`, `Visits.completes`)
* a visit that fails has written nothing, and fails for one of four reasons
  (`Visits.fails`)

The second is where the order of things in a visit matters: what is written before
the last thing that can fail stays written.
-/

import ApparatusGraph.Run.Operator
import ApparatusGraph.Proofs.Alignment.Sound
import ApparatusGraph.Proofs.Registers
import ApparatusGraph.Proofs.Run.Await

namespace ApparatusGraph

variable {σ μ ν : Type}

namespace Node

/-- The registers that a node reads, by var. -/
def sources : Node → Bindings
  | ingress _ => ∅
  | process p => p.inputs
  | switch s => s.inputs
  | egress e => e.result

/-- The registers that a node writes under a verdict, by var. -/
def sinks : Node → Option Bool → Bindings
  | process p, _ => p.outputs
  | switch s, some verdict => (s.branch verdict).2
  | _, _ => ∅

/-- The edge that a node takes under a verdict. -/
def edge? : Node → Option Bool → Option String
  | ingress i, _ => some i.next
  | process p, _ => some p.next
  | switch s, some verdict => some (s.branch verdict).1
  | _, _ => none

/-- The edge that a node takes is one of its edges. -/
theorem edge_mem_successors {n : Node} {branch : Option Bool} {target : String}
    (h : n.edge? branch = some target) : target ∈ n.successors := by
  cases n with
  | ingress i =>
    cases h
    exact List.mem_singleton_self _
  | process p =>
    cases h
    exact List.mem_singleton_self _
  | egress e => cases h
  | switch s =>
    cases branch with
    | none => cases h
    | some verdict =>
      cases h
      cases verdict with
      | true => exact List.mem_cons_self
      | false => exact List.mem_cons_of_mem _ List.mem_cons_self

/-- The writes of a visit of a node. -/
def writes {a : Alignment} (n : Node) (o : Order) (v : Visit a) : List (Address × Param) :=
  match n with
  | ingress i => i.writes o
  | n => Registers.writesOf (n.sinks v.branch) v.outputs

/-- A node with an apparatus writes what its sinks make of the outputs. -/
theorem writes_of_apparatus {a : Alignment} {n : Node} {apparatus : String}
    (h : n.apparatus? = some apparatus) (o : Order) (v : Visit a) :
    n.writes o v = Registers.writesOf (n.sinks v.branch) v.outputs := by
  cases n with
  | ingress i => cases h
  | process p => rfl
  | switch s => rfl
  | egress e => rfl

/-- What a complete visit of a node has done: `r` are the registers before and `r'` those after. -/
structure Completes {a : Alignment} (n : Node) (o : Order) (r : Registers) (v : Visit a)
    (r' : Registers) : Prop where
  inputs : ∀ var, v.inputs.get? var = (n.sources.get? var).bind r.read
  registers : r' = r.writeAll (n.writes o v)
  bound : ∀ i, n = .ingress i → v.outputs = Named.ofList (i.writes o)
  leads : ∀ place, v.onward = .next place →
    ∃ target, n.edge? v.branch = some target ∧ a.resolve? target = some place
  ends : ∀ output, v.onward = .done output → ∃ e, n = .egress e

end Node

/-! ## How a visit can go -/

/-- How the visit of a node can go: what it comes to, and the registers and the session after it. -/
inductive Operator.Visits (op : Operator σ μ) (a : Alignment) (e : Errand) (p : Progress) (n : Node)
    (s : Session σ μ) : Except Fault (Visit a) → Registers → Session σ μ → Prop where
  | refused {events fault r}
      (enter : n.enter op.foundry a e.order p.registers = (events, .error fault, r)) :
      Visits op a e p n s (.error fault) r (s.sayAll events)
  | passed {events v r}
      (enter : n.enter op.foundry a e.order p.registers = (events, .ok (.visited v), r)) :
      Visits op a e p n s (.ok v) r (s.sayAll events)
  | interrupted {events site input r why s'}
      (enter : n.enter op.foundry a e.order p.registers = (events, .ok (.calls site input), r))
      (await : (site.call input).await (op.deadline e.started)
        ((s.sayAll events).invoke site.apparatus input) = (.interrupted why, s')) :
      Visits op a e p n s (.error (op.interruptionFault e.started p.steps.toNat s'.now why)) r s'
  | failed {events site input r cause s'}
      (enter : n.enter op.foundry a e.order p.registers = (events, .ok (.calls site input), r))
      (await : (site.call input).await (op.deadline e.started)
        ((s.sayAll events).invoke site.apparatus input) = (.answered (.error cause), s')) :
      Visits op a e p n s (.error (.apparatusFailure site.node site.apparatus cause)) r s'
  | left {events site input r answer s' said result r'}
      (enter : n.enter op.foundry a e.order p.registers = (events, .ok (.calls site input), r))
      (await : (site.call input).await (op.deadline e.started)
        ((s.sayAll events).invoke site.apparatus input) = (.answered (.ok answer), s'))
      (leave : site.leave a input answer r = (said, result, r')) :
      Visits op a e p n s result r' (s'.sayAll said)

namespace Operator

/-- A visit goes one of the ways that are listed. -/
theorem visits_visit (op : Operator σ μ) (a : Alignment) (e : Errand) (p : Progress) (n : Node)
    (s : Session σ μ) :
    op.Visits a e p n s (op.visit a e p n s).1 (op.visit a e p n s).2.1 (op.visit a e p n s).2.2 := by
  unfold visit
  rcases henter : n.enter op.foundry a e.order p.registers with ⟨events, entered, r⟩
  dsimp only
  split
  · exact .refused henter
  · exact .passed henter
  · split <;> rename_i hawait
    · exact .interrupted henter hawait
    · exact .failed henter hawait
    · exact .left henter hawait rfl

/-- The way that a visit goes says what it comes to. -/
theorem Visits.eq_visit {op : Operator σ μ} {a : Alignment} {e : Errand} {p : Progress} {n : Node}
    {s s' : Session σ μ} {result : Except Fault (Visit a)} {r : Registers}
    (h : op.Visits a e p n s result r s') : op.visit a e p n s = (result, r, s') := by
  unfold visit
  cases h with
  | refused enter => rw [enter]
  | passed enter => rw [enter]
  | interrupted enter await | failed enter await =>
    rw [enter]
    dsimp only
    rw [await]
  | left enter await leave =>
    rw [enter]
    dsimp only
    rw [await]
    dsimp only
    rw [leave]

end Operator

/-! ## Gathering and scattering -/

namespace Registers

/-- The inputs that are gathered are what the bound registers hold. -/
theorem gather_ok {r : Registers} {node : String} {b : Bindings} {c : Contract} {input : Record}
    (h : r.gather node b c = .ok input) (var : Var) :
    input.get? var = (b.get? var).bind r.read := by
  unfold gather at h
  split at h
  · cases h
  · cases h
    exact Named.get?_filterMap ..

/-- Gathering fails because a register is not bound. -/
theorem gather_error {r : Registers} {node : String} {b : Bindings} {c : Contract} {fault : Fault}
    (h : r.gather node b c = .error fault) : ∃ address, fault = .unboundRegister node address := by
  unfold gather at h
  split at h
  · cases h
    exact ⟨_, rfl⟩
  · cases h

/-- Scattering that succeeds writes what the bindings make of the record. -/
theorem scatter_ok {r r' : Registers} {node : String} {b : Bindings} {output : Record} {c : Contract}
    (h : r.scatter node b output c = (.ok (), r')) : r' = r.writeAll (writesOf b output) := by
  rw [scatter_eq] at h
  split at h
  · cases h
  · cases h
    rfl

/-- **Scattering that fails has written nothing.** -/
theorem scatter_error {r r' : Registers} {node : String} {b : Bindings} {output : Record}
    {c : Contract} {fault : Fault} (h : r.scatter node b output c = (.error fault, r')) :
    r' = r ∧ ∃ var, fault = .missingOutput node var := by
  rw [scatter_eq] at h
  split at h
  · cases h
    exact ⟨rfl, _, rfl⟩
  · cases h

end Registers

namespace Alignment

/-- An edge can be followed to where its target is found. -/
theorem follow_ok {a : Alignment} {node target : String} {place : Fin a.size}
    (h : a.resolve? target = some place) : a.follow node target = .ok place := by
  unfold follow
  rw [h]

end Alignment

/-! ## Sites -/

/-- A site does the part of a node: it has the name, the apparatus, the inputs and, for every answer
of its call, the edge and the outputs of the node. -/
structure Site.Serves (site : Site σ) (n : Node) : Prop where
  node : site.node = n.label
  apparatus : n.apparatus? = some site.apparatus
  inputs : site.inputs = n.sources
  exit : ∀ {μ : Type} {deadline : Option Nat} {input : Record} {s s' : Session σ μ} {answer : Answer},
    (site.call input).await deadline s = (.answered (.ok answer), s') →
      n.edge? answer.branch = some (site.exit answer.branch).target ∧
        n.sinks answer.branch = (site.exit answer.branch).bindings

/-- The site of a process serves it. -/
theorem Process.site_serves {f : Foundry σ} {p : Process} {site : Site σ}
    (h : p.site f = .ok site) : site.Serves (.process p) := by
  unfold Process.site at h
  split at h
  · cases h
  · cases h
    exact ⟨rfl, rfl, rfl, fun _ => ⟨rfl, rfl⟩⟩

/-- What the call of a switch answers is the verdict and the record of its switcher. -/
theorem Switch.await_site {f : Foundry σ} {sw : Switch} {site : Site σ} {switcher : Switcher σ}
    (hsite : sw.site f = .ok site) (hswitcher : f.switcher? sw.apparatus = some switcher)
    {deadline : Option Nat} {input : Record} {s s' : Session σ μ} {answer : Answer}
    (h : (site.call input).await deadline s = (.answered (.ok answer), s')) :
    ∃ verdict, answer.branch = some verdict ∧
      (switcher.check input).await deadline s = (.answered (.ok (verdict, answer.record)), s') := by
  unfold Switch.site at hsite
  rw [hswitcher] at hsite
  cases hsite
  rw [Call.await_map] at h
  obtain ⟨hanswer, hafter⟩ := Prod.mk.inj h
  obtain ⟨⟨verdict, record⟩, hcheck, rfl⟩ := Awaited.map_eq_answered hanswer
  exact ⟨verdict, rfl, Prod.ext hcheck hafter⟩

/-- The site of a switch serves it. -/
theorem Switch.site_serves {f : Foundry σ} {sw : Switch} {site : Site σ}
    (h : sw.site f = .ok site) : site.Serves (.switch sw) := by
  have hsite := h
  unfold Switch.site at h
  split at h
  · cases h
  · rename_i switcher hswitcher
    cases h
    refine ⟨rfl, rfl, rfl, fun hawait => ?_⟩
    obtain ⟨verdict, hbranch, -⟩ := Switch.await_site hsite hswitcher hawait
    rw [hbranch]
    exact ⟨rfl, rfl⟩

/-- A complete visit of an egress reads its result, gives nothing and ends the run. -/
theorem Egress.visit_ok {x : Egress} {a : Alignment} {r : Registers} {v : Visit a}
    (h : x.visit a r = .ok v) :
    v.inputs = x.result.filterMap (fun _ address => r.read address) ∧ v.outputs = ∅ ∧
      v.branch = none ∧ ∃ output, v.onward = .done output := by
  unfold Egress.visit at h
  split at h
  · cases h
  · cases h
    exact ⟨rfl, rfl, rfl, _, rfl⟩

/-- The visit of an egress fails because a register is not bound. -/
theorem Egress.visit_error {x : Egress} {a : Alignment} {r : Registers} {fault : Fault}
    (h : x.visit a r = .error fault) : ∃ address, fault = .unboundRegister x.name address := by
  unfold Egress.visit at h
  split at h
  · cases h
    exact ⟨_, rfl⟩
  · cases h

/-- A node that comes to a call is a process or a switch, and the call is that of its site. -/
theorem Node.site_of_enter {f : Foundry σ} {n : Node} {a : Alignment} {o : Order}
    {r r' : Registers} {events : List Event} {site : Site σ} {input : Record}
    (h : n.enter f a o r = (events, .ok (.calls site input), r')) :
    (∃ p, n = .process p ∧ p.site f = .ok site) ∨ ∃ sw, n = .switch sw ∧ sw.site f = .ok site := by
  have hsite {own : Site σ} (h : own.enter a r = (events, .ok (.calls site input), r')) :
      own = site := by
    unfold Site.enter at h
    cases hgather : r.gather own.node own.inputs own.contract with
    | error fault =>
      rw [hgather] at h
      cases h
    | ok record =>
      rw [hgather] at h
      cases h
      rfl
  cases n with
  | ingress i =>
    dsimp only [Node.enter] at h
    cases hvisit : (i.visit a o r).1 with
    | error fault =>
      rw [hvisit] at h
      cases h
    | ok v =>
      rw [hvisit] at h
      cases h
  | process p =>
    dsimp only [Node.enter] at h
    cases hown : p.site f with
    | error fault =>
      rw [hown] at h
      cases h
    | ok own =>
      rw [hown] at h
      exact .inl ⟨p, rfl, hsite h ▸ hown⟩
  | switch sw =>
    dsimp only [Node.enter] at h
    cases hown : sw.site f with
    | error fault =>
      rw [hown] at h
      cases h
    | ok own =>
      rw [hown] at h
      exact .inr ⟨sw, rfl, hsite h ▸ hown⟩
  | egress x =>
    dsimp only [Node.enter] at h
    cases hvisit : x.visit a r with
    | error fault =>
      rw [hvisit] at h
      cases h
    | ok v =>
      rw [hvisit] at h
      cases h

/-! ## Visits on a sound alignment -/

section Sound

variable {a : Alignment} {f : Foundry σ} {n : Node} {o : Order} {r r' : Registers}
  {events : List Event}

/-- A process has a site. -/
theorem Alignment.Sound.process_site (h : a.Sound f) {p : Process}
    (hp : .process p ∈ a.operations) : ∃ site, p.site f = .ok site := by
  obtain ⟨processor, hprocessor⟩ := h.processor hp
  unfold Process.site
  rw [hprocessor]
  exact ⟨_, rfl⟩

/-- A switch has a site. -/
theorem Alignment.Sound.switch_site (h : a.Sound f) {sw : Switch}
    (hsw : .switch sw ∈ a.operations) : ∃ site, sw.site f = .ok site := by
  obtain ⟨switcher, hswitcher⟩ := h.switcher hsw
  unfold Switch.site
  rw [hswitcher]
  exact ⟨_, rfl⟩

/-- How the visit of a node begins: an ingress is passed, a process or a switch has a site, an
egress reads. -/
theorem Alignment.Sound.enter (h : a.Sound f) (hn : n ∈ a.operations) (o : Order) (r : Registers) :
    (∃ i place, n = .ingress i ∧ a.resolve? i.next = some place ∧
      n.enter f a o r = (i.events o,
        .ok (.visited { inputs := ∅, outputs := .ofList (i.writes o), onward := .next place }),
        r.writeAll (i.writes o))) ∨
    (∃ site : Site σ, site.Serves n ∧ n.enter f a o r = site.enter a r) ∨
    ∃ x, n = .egress x ∧ n.enter f a o r = ([], .visited <$> x.visit a r, r) := by
  cases n with
  | ingress i =>
    obtain ⟨place, hplace⟩ := h.resolve hn (List.mem_singleton_self i.next)
    refine .inl ⟨i, place, rfl, hplace, ?_⟩
    dsimp only [Node.enter, Ingress.visit]
    rw [Alignment.follow_ok hplace]
    rfl
  | process p =>
    obtain ⟨site, hsite⟩ := h.process_site hn
    refine .inr (.inl ⟨site, Process.site_serves hsite, ?_⟩)
    dsimp only [Node.enter]
    rw [hsite]
  | switch sw =>
    obtain ⟨site, hsite⟩ := h.switch_site hn
    refine .inr (.inl ⟨site, Switch.site_serves hsite, ?_⟩)
    dsimp only [Node.enter]
    rw [hsite]
  | egress x => exact .inr (.inr ⟨x, rfl, rfl⟩)

/-- A visit that fails to begin was to read a register that is not bound. -/
theorem Alignment.Sound.enter_error (h : a.Sound f) (hn : n ∈ a.operations) {fault : Fault}
    (henter : n.enter f a o r = (events, .error fault, r')) :
    r' = r ∧ ∃ address, fault = .unboundRegister n.label address := by
  obtain ⟨i, place, -, -, heq⟩ | ⟨site, hserves, heq⟩ | ⟨x, rfl, heq⟩ := h.enter hn o r <;>
    rw [heq] at henter
  · cases henter
  · unfold Site.enter at henter
    cases hgather : r.gather site.node site.inputs site.contract with
    | ok input =>
      rw [hgather] at henter
      cases henter
    | error reason =>
      rw [hgather] at henter
      cases henter
      exact ⟨rfl, hserves.node ▸ Registers.gather_error hgather⟩
  · cases hvisit : x.visit a r with
    | ok v =>
      rw [hvisit] at henter
      cases henter
    | error reason =>
      rw [hvisit] at henter
      cases henter
      exact ⟨rfl, Egress.visit_error hvisit⟩

/-- A visit that comes to a call has read the sources of its node and written nothing. -/
theorem Alignment.Sound.enter_calls (h : a.Sound f) (hn : n ∈ a.operations) {site : Site σ}
    {input : Record} (henter : n.enter f a o r = (events, .ok (.calls site input), r')) :
    r' = r ∧ site.Serves n ∧ ∀ var, input.get? var = (n.sources.get? var).bind r.read := by
  obtain ⟨i, place, -, -, heq⟩ | ⟨own, hserves, heq⟩ | ⟨x, rfl, heq⟩ := h.enter hn o r <;>
    rw [heq] at henter
  · cases henter
  · unfold Site.enter at henter
    cases hgather : r.gather own.node own.inputs own.contract with
    | error reason =>
      rw [hgather] at henter
      cases henter
    | ok record =>
      rw [hgather] at henter
      cases henter
      exact ⟨rfl, hserves, hserves.inputs ▸ Registers.gather_ok hgather⟩
  · cases hvisit : x.visit a r with
    | error reason =>
      rw [hvisit] at henter
      cases henter
    | ok v =>
      rw [hvisit] at henter
      cases henter

/-- A visit that needs no call is complete at once. -/
theorem Alignment.Sound.enter_visited (h : a.Sound f) (hn : n ∈ a.operations) {v : Visit a}
    (henter : n.enter f a o r = (events, .ok (.visited v), r')) : n.Completes o r v r' := by
  obtain ⟨i, place, rfl, hplace, heq⟩ | ⟨site, hserves, heq⟩ | ⟨x, rfl, heq⟩ := h.enter hn o r <;>
    rw [heq] at henter
  · cases henter
    refine ⟨fun _ => rfl, rfl, ?_, ?_, ?_⟩
    · rintro j hj
      cases hj
      rfl
    · rintro next hnext
      cases hnext
      exact ⟨i.next, rfl, hplace⟩
    · rintro output houtput
      cases houtput
  · unfold Site.enter at henter
    cases hgather : r.gather site.node site.inputs site.contract with
    | error reason =>
      rw [hgather] at henter
      cases henter
    | ok input =>
      rw [hgather] at henter
      cases henter
  · cases hvisit : x.visit a r with
    | error reason =>
      rw [hvisit] at henter
      cases henter
    | ok w =>
      rw [hvisit] at henter
      cases henter
      obtain ⟨hinputs, -, hbranch, output, honward⟩ := Egress.visit_ok hvisit
      refine ⟨fun var => ?_, rfl, ?_, ?_, fun _ _ => ⟨x, rfl⟩⟩
      · rw [hinputs, Named.get?_filterMap]
        rfl
      · rintro i hi
        cases hi
      · rintro place hplace
        rw [honward] at hplace
        cases hplace

/-- A site that is left for the next place has written the sinks of its node and taken its edge. -/
theorem Site.Serves.leave_ok {site : Site σ} (hserves : site.Serves n) {deadline : Option Nat}
    {input : Record} {s s' : Session σ μ} {answer : Answer} {v : Visit a}
    (hawait : (site.call input).await deadline s = (.answered (.ok answer), s'))
    (hinput : ∀ var, input.get? var = (n.sources.get? var).bind r.read)
    (hleave : site.leave a input answer r = (events, .ok v, r')) : n.Completes o r v r' := by
  obtain ⟨hedge, hsinks⟩ := hserves.exit hawait
  unfold Site.leave at hleave
  dsimp only at hleave
  split at hleave
  · cases hleave
  · rename_i r₁ hscatter
    split at hleave
    · cases hleave
    · rename_i place hfollow
      cases hleave
      have hresolve : a.resolve? (site.exit answer.branch).target = some place := by
        unfold Alignment.follow at hfollow
        split at hfollow
        · cases hfollow
          assumption
        · cases hfollow
      refine ⟨hinput, ?_, ?_, ?_, ?_⟩
      · rw [Node.writes_of_apparatus hserves.apparatus, hsinks]
        exact Registers.scatter_ok hscatter
      · rintro i rfl
        cases hserves.apparatus
      · rintro next hnext
        cases hnext
        exact ⟨_, hedge, hresolve⟩
      · rintro output houtput
        cases houtput

/-- A site that cannot be left lacks an output, and has written nothing. -/
theorem Alignment.Sound.leave_error (h : a.Sound f) (hn : n ∈ a.operations) {site : Site σ}
    (hserves : site.Serves n) {deadline : Option Nat} {input : Record} {s s' : Session σ μ}
    {answer : Answer} {fault : Fault}
    (hawait : (site.call input).await deadline s = (.answered (.ok answer), s'))
    (hleave : site.leave a input answer r = (events, .error fault, r')) :
    r' = r ∧ ∃ var, fault = .missingOutput n.label var := by
  obtain ⟨hedge, -⟩ := hserves.exit hawait
  obtain ⟨place, hplace⟩ := h.resolve hn (Node.edge_mem_successors hedge)
  unfold Site.leave at hleave
  dsimp only at hleave
  split at hleave
  · rename_i reason r₁ hscatter
    cases hleave
    exact hserves.node ▸ Registers.scatter_error hscatter
  · rw [Alignment.follow_ok hplace] at hleave
    cases hleave

end Sound

namespace Operator

variable {op : Operator σ μ} {a : Alignment} {e : Errand} {p : Progress} {n : Node}
  {s s' : Session σ μ} {r : Registers}

/-- The call of a node is cut short with a fault. -/
def CutsCall (op : Operator σ μ) (a : Alignment) (e : Errand) (p : Progress) (n : Node)
    (s : Session σ μ) (fault : Fault) (s' : Session σ μ) : Prop :=
  ∃ events site input r why,
    n.enter op.foundry a e.order p.registers = (events, .ok (.calls site input), r) ∧
      (site.call input).await (op.deadline e.started)
        ((s.sayAll events).invoke site.apparatus input) = (.interrupted why, s') ∧
      fault = op.interruptionFault e.started p.steps.toNat s'.now why

/-- A call that is cut short ends in the fault of the token or of the budget. -/
theorem CutsCall.fault_eq {fault : Fault} (h : op.CutsCall a e p n s fault s') :
    fault = .cancelled p.steps.toNat ∨ fault = op.timeoutFault e.started s'.now := by
  obtain ⟨events, site, input, r, why, -, -, rfl⟩ := h
  cases why with
  | cancelled => exact .inl rfl
  | timedOut => exact .inr rfl

/-- **A complete visit has done what its node says.** -/
theorem Visits.completes (h : a.Sound op.foundry) (hn : n ∈ a.operations) {v : Visit a}
    (hvisit : op.Visits a e p n s (.ok v) r s') : n.Completes e.order p.registers v r := by
  cases hvisit with
  | passed enter => exact h.enter_visited hn enter
  | left enter await leave =>
    obtain ⟨rfl, hserves, hinput⟩ := h.enter_calls hn enter
    exact hserves.leave_ok await hinput leave

/-- **A visit that fails has written nothing.**  A register was not bound, the apparatus failed, an
output is missing, or the call was cut short. -/
theorem Visits.fails (h : a.Sound op.foundry) (hn : n ∈ a.operations) {fault : Fault}
    (hvisit : op.Visits a e p n s (.error fault) r s') :
    r = p.registers ∧
      ((∃ address, fault = .unboundRegister n.label address) ∨
        (∃ apparatus cause, fault = .apparatusFailure n.label apparatus cause) ∨
        (∃ var, fault = .missingOutput n.label var) ∨ op.CutsCall a e p n s fault s') := by
  cases hvisit with
  | refused enter =>
    obtain ⟨hr, hunbound⟩ := h.enter_error hn enter
    exact ⟨hr, .inl hunbound⟩
  | interrupted enter await =>
    obtain ⟨hr, -, -⟩ := h.enter_calls hn enter
    exact ⟨hr, .inr (.inr (.inr ⟨_, _, _, _, _, enter, await, rfl⟩))⟩
  | failed enter await =>
    obtain ⟨hr, hserves, -⟩ := h.enter_calls hn enter
    exact ⟨hr, .inr (.inl ⟨_, _, by rw [hserves.node]⟩)⟩
  | left enter await leave =>
    obtain ⟨rfl, hserves, -⟩ := h.enter_calls hn enter
    obtain ⟨hr, hmissing⟩ := h.leave_error hn hserves await leave
    exact ⟨hr, .inr (.inr (.inl hmissing))⟩

/-- A visit does not touch what the medium keeps. -/
theorem Visits.kept {result : Except Fault (Visit a)} (hvisit : op.Visits a e p n s result r s') :
    s'.kept = s.kept := by
  have hcall {events : List Event} {site : Site σ} {input : Record} {t : Session σ μ}
      {ended : Awaited Answer}
      (hawait : (site.call input).await (op.deadline e.started)
        ((s.sayAll events).invoke site.apparatus input) = (ended, t)) : t.kept = s.kept := by
    have hkept := Call.await_kept (op.deadline e.started) (site.call input)
      ((s.sayAll events).invoke site.apparatus input)
    rw [hawait] at hkept
    simpa using hkept
  cases hvisit with
  | refused enter => simp
  | passed enter => simp
  | interrupted enter await => exact hcall await
  | failed enter await => exact hcall await
  | left enter await leave => simpa using hcall await

end Operator
end ApparatusGraph
