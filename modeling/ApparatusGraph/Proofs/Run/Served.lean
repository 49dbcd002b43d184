/-
# What nodes must be given

A node names registers to read and registers to write, var by var, and the contracts of its
apparatus say which vars may be absent.  Both scans of a visit look for the first var that is
absent and may not be:

| scan | looks in | under |
| --- | --- | --- |
| of the inputs | the registers | the input contract |
| of the outputs | what the apparatus replied | the output contract of its branch |
| of an egress | the registers | nothing may be absent |

A map is scanned in the order of names, so the first is the least (`Named.Least`).  A node
whose inputs pass is served (`Node.Served`).  Registers do not become unbound again, so it
stays served (`Node.Served.writeAll`).
-/

import ApparatusGraph.Proofs.Registers
import ApparatusGraph.Proofs.Run.Visit

namespace ApparatusGraph

variable {σ μ α β : Type}

/-! ## Scans -/

/-- The least name of a map at which a property holds, and the value there. -/
structure Named.Least (m : Named α) (P : String → α → Prop) (name : String) (a : α) : Prop where
  entry : m.get? name = some a
  holds : P name a
  least : ∀ other b, m.get? other = some b → P other b → name ≤ other

namespace Named

/-- The first entry that passes a test is the least. -/
theorem least_of_find? {m : Named α} {test : String × α → Bool} {P : String → α → Prop}
    (hP : ∀ name a, test (name, a) = true ↔ P name a) {name : String} {a : α}
    (h : m.entries.find? test = some (name, a)) : m.Least P name a := by
  obtain ⟨htest, before, after, heq, hbefore⟩ := List.find?_eq_some_iff_append.1 h
  have hordered := m.increasing
  rw [heq, List.map_append, List.map_cons, List.pairwise_append, List.pairwise_cons] at hordered
  refine ⟨get?_eq_some_iff.2 (heq ▸ List.mem_append_right _ List.mem_cons_self), (hP name a).1 htest,
    fun other b hother hholds => ?_⟩
  have hmem := get?_eq_some_iff.1 hother
  rw [heq, List.mem_append, List.mem_cons] at hmem
  rcases hmem with hmem | hmem | hmem
  · have hfails := hbefore _ hmem
    rw [(hP other b).2 hholds] at hfails
    cases hfails
  · obtain ⟨rfl, -⟩ := Prod.mk.inj hmem
    exact String.le_refl _
  · exact String.not_lt.1 (String.lt_asymm (hordered.2.1.1 other (List.mem_map_of_mem hmem)))

/-- A test that no entry passes. -/
theorem not_of_find?_eq_none {m : Named α} {test : String × α → Bool} {P : String → α → Prop}
    (hP : ∀ name a, test (name, a) = true ↔ P name a) (h : m.entries.find? test = none)
    {name : String} {a : α} (hentry : m.get? name = some a) : ¬P name a := fun hholds =>
  List.find?_eq_none.1 h _ (get?_eq_some_iff.1 hentry) ((hP name a).2 hholds)

/-- A map that is kept whole keeps its names. -/
theorem names_filterMap {m : Named α} {g : String → α → Option β}
    (h : ∀ name a, m.get? name = some a → (g name a).isSome = true) :
    (m.filterMap g).names = m.names := by
  have hentries {l : List (String × α)} (h : ∀ e ∈ l, (g e.1 e.2).isSome = true) :
      (l.filterMap fun e => (g e.1 e.2).map (e.1, ·)).map (·.1) = l.map (·.1) := by
    induction l with
    | nil => rfl
    | cons e rest ih =>
      obtain ⟨b, hb⟩ := Option.isSome_iff_exists.1 (h e List.mem_cons_self)
      rw [List.filterMap_cons, hb, Option.map_some, List.map_cons, List.map_cons,
        ih fun e he => h e (List.mem_cons_of_mem _ he)]
  exact hentries fun e he => h e.1 e.2 (get?_eq_some_iff.2 he)

end Named

/-- A record lacks an output that is absent and may not be. -/
theorem Record.lacks_iff {output : Record} {c : Contract} (var : Var) (address : Address) :
    output.lacks c (var, address) = true ↔
      output.get? var = none ∧ c.allowsAbsent var = false := by
  unfold Record.lacks
  rw [Bool.and_eq_true, Option.isNone_iff_eq_none, Bool.not_eq_true']

namespace Registers

variable {r r' : Registers} {node : String} {b : Bindings} {c : Contract} {input output : Record}
  {fault : Fault}

/-- Registers lack an input that is unbound and may not be absent. -/
theorem lacks_iff (var : Var) (address : Address) :
    r.lacks c (var, address) = true ↔ r.read address = none ∧ c.allowsAbsent var = false := by
  unfold lacks
  rw [Bool.and_eq_true, Option.isNone_iff_eq_none, Bool.not_eq_true']

/-- Gathering fails at the least var whose register is unbound and that may not be absent. -/
theorem gather_least (h : r.gather node b c = .error fault) :
    ∃ var address, fault = .unboundRegister node address ∧
      b.Least (fun var address => r.read address = none ∧ c.allowsAbsent var = false)
        var address := by
  unfold gather at h
  split at h
  · rename_i var address hfind
    cases h
    exact ⟨var, address, rfl, Named.least_of_find? lacks_iff hfind⟩
  · cases h

/-- After gathering, a register is unbound only for a var that may be absent. -/
theorem gather_served (h : r.gather node b c = .ok input) {var : Var} {address : Address}
    (hvar : b.get? var = some address) (hread : r.read address = none) :
    c.allowsAbsent var = true := by
  unfold gather at h
  split at h
  · cases h
  · rename_i hfind
    have hnot := Named.not_of_find?_eq_none (lacks_iff (r := r) (c := c)) hfind hvar
    exact Bool.not_eq_false _ ▸ fun hneeded => hnot ⟨hread, hneeded⟩

/-- Scattering fails at the least var that the record lacks and that may not be absent. -/
theorem scatter_least {r' : Registers} (h : r.scatter node b output c = (.error fault, r')) :
    ∃ var address, fault = .missingOutput node var ∧
      b.Least (fun var _ => output.get? var = none ∧ c.allowsAbsent var = false) var address := by
  rw [scatter_eq] at h
  split at h
  · rename_i var address hfind
    cases h
    exact ⟨var, address, rfl, Named.least_of_find? Record.lacks_iff hfind⟩
  · cases h

/-- **Registers do not become unbound.** -/
theorem read_of_writeAll {ws : List (Address × Param)} {address : Address}
    (h : (r.writeAll ws).read address = none) : r.read address = none := by
  unfold read at h ⊢
  rw [slots_writeAll, Named.get?_insertAll, Option.or_eq_none_iff] at h
  exact h.2

end Registers

/-! ## Contracts of nodes -/

namespace Node

/-- The contract on what the apparatus of a node is given.  A node without an apparatus has none, so
nothing that it reads may be absent. -/
def inputContract (f : Foundry σ) : Node → Contract
  | process p => (f.processor? p.apparatus).elim ∅ (·.input)
  | switch s => (f.switcher? s.apparatus).elim ∅ (·.input)
  | _ => ∅

/-- The contract on what the apparatus of a node gives back under a verdict. -/
def outputContract (f : Foundry σ) : Node → Option Bool → Contract
  | process p, _ => (f.processor? p.apparatus).elim ∅ (·.output)
  | switch s, some verdict => (f.switcher? s.apparatus).elim ∅ (·.outputFor verdict)
  | _, _ => ∅

/-- All that a node must read is bound. -/
def Served (n : Node) (f : Foundry σ) (r : Registers) : Prop :=
  ∀ var address, n.sources.get? var = some address → r.read address = none →
    (n.inputContract f).allowsAbsent var = true

/-- What is served stays served. -/
theorem Served.writeAll {n : Node} {f : Foundry σ} {r : Registers} (h : n.Served f r)
    (ws : List (Address × Param)) : n.Served f (r.writeAll ws) :=
  fun var address hvar hread => h var address hvar (Registers.read_of_writeAll hread)

/-- The apparatus of a node, asked at a session, replies with a verdict, if it is a switcher, and
with a record. -/
inductive Replies (f : Foundry σ) (deadline : Option Nat) (input : Record)
    (s s' : Session σ μ) : Node → Option Bool → Record → Prop where
  | process {p processor record} (registered : f.processor? p.apparatus = some processor)
      (replies : (processor.process input).await deadline s = (.answered (.ok record), s')) :
      Replies f deadline input s s' (.process p) none record
  | switch {sw switcher verdict record} (registered : f.switcher? sw.apparatus = some switcher)
      (replies : (switcher.check input).await deadline s =
        (.answered (.ok (verdict, record)), s')) :
      Replies f deadline input s s' (.switch sw) (some verdict) record

end Node

/-- A site keeps the contracts of a node, and its call is answered as the apparatus of the node
replies. -/
structure Site.Honours (site : Site σ) (f : Foundry σ) (n : Node) : Prop where
  contract : site.contract = n.inputContract f
  replies : ∀ {μ : Type} {deadline : Option Nat} {input : Record} {s s' : Session σ μ}
    {answer : Answer}, (site.call input).await deadline s = (.answered (.ok answer), s') →
      n.Replies f deadline input s s' answer.branch answer.record ∧
        (site.exit answer.branch).contract = n.outputContract f answer.branch

/-- The site of a process keeps the contracts of its processor and is answered as that replies. -/
theorem Process.site_honours {f : Foundry σ} {p : Process} {site : Site σ}
    (h : p.site f = .ok site) : site.Honours f (.process p) := by
  unfold Process.site at h
  split at h
  · cases h
  · rename_i processor hprocessor
    cases h
    refine ⟨by dsimp only [Node.inputContract]; rw [hprocessor]; rfl, fun hawait => ?_⟩
    dsimp only at hawait
    rw [Call.await_map] at hawait
    obtain ⟨hanswer, hafter⟩ := Prod.mk.inj hawait
    obtain ⟨record, hreply, rfl⟩ := Awaited.map_eq_answered hanswer
    refine ⟨.process hprocessor (Prod.ext hreply hafter), ?_⟩
    dsimp only [Node.outputContract]
    rw [hprocessor]
    rfl

/-- The site of a switch keeps the contracts of its switcher and is answered as that replies. -/
theorem Switch.site_honours {f : Foundry σ} {sw : Switch} {site : Site σ}
    (h : sw.site f = .ok site) : site.Honours f (.switch sw) := by
  have hsite := h
  unfold Switch.site at h
  split at h
  · cases h
  · rename_i switcher hswitcher
    cases h
    refine ⟨by dsimp only [Node.inputContract]; rw [hswitcher]; rfl, fun hawait => ?_⟩
    obtain ⟨verdict, hbranch, hreply⟩ := Switch.await_site hsite hswitcher hawait
    rw [hbranch]
    refine ⟨.switch hswitcher hreply, ?_⟩
    dsimp only [Node.outputContract]
    rw [hswitcher]
    rfl

/-! ## Nodes of a sound alignment -/

section Sound

variable {a : Alignment} {f : Foundry σ} {n : Node} {o : Order} {r r' : Registers}
  {events : List Event}

/-- The visit of a node with an apparatus begins at a site that keeps the contracts of the node. -/
theorem Alignment.Sound.honours (h : a.Sound f) (hn : n ∈ a.operations) {apparatus : String}
    (happaratus : n.apparatus? = some apparatus) (o : Order) (r : Registers) :
    ∃ site : Site σ, site.Serves n ∧ site.Honours f n ∧ n.enter f a o r = site.enter a r := by
  cases n with
  | ingress i => cases happaratus
  | egress x => cases happaratus
  | process p =>
    obtain ⟨site, hsite⟩ := h.process_site hn
    refine ⟨site, Process.site_serves hsite, Process.site_honours hsite, ?_⟩
    dsimp only [Node.enter]
    rw [hsite]
  | switch sw =>
    obtain ⟨site, hsite⟩ := h.switch_site hn
    refine ⟨site, Switch.site_serves hsite, Switch.site_honours hsite, ?_⟩
    dsimp only [Node.enter]
    rw [hsite]

/-- A node that comes to a call does so at a site that keeps its contracts. -/
theorem Node.honours_of_enter {site : Site σ} {input : Record}
    (henter : n.enter f a o r = (events, .ok (.calls site input), r')) : site.Honours f n := by
  obtain ⟨p, rfl, hsite⟩ | ⟨sw, rfl, hsite⟩ := Node.site_of_enter henter
  · exact Process.site_honours hsite
  · exact Switch.site_honours hsite

/-- An egress reads every field under no contract. -/
theorem Egress.lacks_iff {r : Registers} (var : Var) (address : Address) :
    (r.read address).isNone = true ↔
      r.read address = none ∧ Contract.allowsAbsent ∅ var = false := by
  rw [Option.isNone_iff_eq_none]
  exact (and_iff_left rfl).symm

/-- **A visit that fails to begin** fails at the least var whose register is unbound and that may
not be absent. -/
theorem Alignment.Sound.enter_least (h : a.Sound f) (hn : n ∈ a.operations) {fault : Fault}
    (henter : n.enter f a o r = (events, .error fault, r')) :
    ∃ var address, fault = .unboundRegister n.label address ∧
      n.sources.Least (fun var address =>
        r.read address = none ∧ (n.inputContract f).allowsAbsent var = false) var address := by
  obtain ⟨i, place, -, -, heq⟩ | ⟨site, hserves, -⟩ | ⟨x, rfl, heq⟩ := h.enter hn o r
  · rw [heq] at henter
    cases henter
  · obtain ⟨site, hserves, hhonours, heq⟩ := h.honours hn hserves.apparatus o r
    rw [heq] at henter
    unfold Site.enter at henter
    rw [← hserves.node, ← hserves.inputs, ← hhonours.contract]
    cases hgather : r.gather site.node site.inputs site.contract with
    | ok input =>
      rw [hgather] at henter
      cases henter
    | error reason =>
      rw [hgather] at henter
      cases henter
      exact Registers.gather_least hgather
  · rw [heq] at henter
    unfold Egress.visit at henter
    split at henter
    · rename_i var address hfind
      cases henter
      exact ⟨var, address, rfl, Named.least_of_find? Egress.lacks_iff hfind⟩
    · cases henter

/-- A visit that begins has its node served. -/
theorem Alignment.Sound.served_of_enter (h : a.Sound f) (hn : n ∈ a.operations)
    {entered : Entered σ a} (henter : n.enter f a o r = (events, .ok entered, r')) :
    n.Served f r := by
  obtain ⟨i, place, rfl, -, -⟩ | ⟨site, hserves, -⟩ | ⟨x, rfl, heq⟩ := h.enter hn o r
  · rintro var address ⟨⟩
  · obtain ⟨site, hserves, hhonours, heq⟩ := h.honours hn hserves.apparatus o r
    rw [heq] at henter
    unfold Site.enter at henter
    unfold Node.Served
    rw [← hserves.inputs, ← hhonours.contract]
    cases hgather : r.gather site.node site.inputs site.contract with
    | ok input => exact fun var address => Registers.gather_served hgather
    | error reason =>
      rw [hgather] at henter
      cases henter
  · rw [heq] at henter
    unfold Egress.visit at henter
    split at henter
    · cases henter
    · rename_i hfind
      intro var address hvar hread
      have hnot := Named.not_of_find?_eq_none Egress.lacks_iff hfind hvar
      exact absurd ⟨hread, rfl⟩ hnot

end Sound
end ApparatusGraph
