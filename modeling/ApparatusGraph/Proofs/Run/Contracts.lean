/-
# What a run sees of a foundry

A run asks its foundry for what its nodes reference, calls what it finds, and asks a contract one
thing: whether a var may be absent.  So between two foundries that match on what is referenced
(`Foundry.Matches`), with contracts of which the second lets everything be absent that the first
does, a visit is the same visit, or it fails under the first because something is absent that the
second does not ask for (`Node.Relieved`, `Operator.Visits.withFoundry`).  The same then holds of
turns and runs.

* Where the contracts let the same vars be absent, nobody is relieved, so the runs are one
  (`Operator.unreferenced_irrelevant`).
* Where the second lets more be absent, the run goes on at least as far
  (`Operator.easing_extends`).
-/

import Mathlib.Data.List.Find
import ApparatusGraph.Proofs.Foundry.Matching
import ApparatusGraph.Proofs.Run.Declaration

namespace ApparatusGraph

variable {σ μ : Type} {R : Contract → Contract → Prop}

/-! ## Gathering and scattering -/

/-- Some related contracts differ in what they ask for. -/
def Contract.Loosens (R : Contract → Contract → Prop) : Prop := ∃ c c', R c c' ∧ ¬c'.Eases c

/-- No contract asks for less than one that is alike. -/
theorem Contract.not_loosens_alike : ¬Contract.Loosens Contract.Alike := by
  rintro ⟨c, c', halike, hnot⟩
  exact hnot halike.symm.eases

/-- Under an eased contract a scan for what is absent and asked for is the same scan, or it finds
something under the first contract. -/
theorem Contract.Eases.scan {c c' : Contract} (h : c.Eases c') (absent : Var × Address → Bool)
    (entries : List (Var × Address)) :
    (∀ entry ∈ entries,
      (absent entry && !c'.allowsAbsent entry.1) = (absent entry && !c.allowsAbsent entry.1)) ∨
    ¬c'.Eases c ∧
      ∃ entry, entries.find? (fun entry => absent entry && !c.allowsAbsent entry.1) = some entry := by
  by_cases hsame : ∀ entry ∈ entries, absent entry = true →
      c'.allowsAbsent entry.1 = true → c.allowsAbsent entry.1 = true
  · refine .inl fun entry hentry => ?_
    cases habsent : absent entry with
    | false => rfl
    | true => rw [Bool.eq_iff_iff.2 ⟨hsame entry hentry habsent, h entry.1⟩]
  · simp only [Classical.not_forall] at hsame
    obtain ⟨entry, hentry, habsent, hallowed, hasked⟩ := hsame
    refine .inr ⟨fun hback => hasked (hback entry.1 hallowed), ?_⟩
    refine Option.isSome_iff_exists.1 (List.find?_isSome.2 ⟨entry, hentry, ?_⟩)
    rw [habsent, Bool.eq_false_iff.2 hasked]
    rfl

/-- As many members are taken as long as two tests agree on them. -/
theorem takeWhile_congr {α : Type} {p q : α → Bool} {l : List α} (h : ∀ x ∈ l, q x = p x) :
    l.takeWhile q = l.takeWhile p := by
  induction l with
  | nil => rfl
  | cons x rest ih =>
    rw [List.takeWhile_cons, List.takeWhile_cons, h x List.mem_cons_self,
      ih fun y hy => h y (List.mem_cons_of_mem _ hy)]

namespace Registers

variable {c c' : Contract}

/-- Inputs are gathered alike under an eased contract, or one is unbound that the eased one does not
ask for. -/
theorem gather_of_eases (h : c.Eases c') (r : Registers) (node : String) (b : Bindings) :
    (r.gather node b c' = r.gather node b c ∧ r.gatherEvents node b c' = r.gatherEvents node b c) ∨
      ¬c'.Eases c ∧ ∃ address, r.gather node b c = .error (.unboundRegister node address) := by
  obtain hsame | ⟨hloose, ⟨var, address⟩, hfind⟩ :=
    h.scan (fun entry => (r.read entry.2).isNone) b.entries
  · have hlacks : ∀ entry ∈ b.entries, r.lacks c' entry = r.lacks c entry := hsame
    unfold gather gatherEvents
    rw [List.find?_congr hlacks, takeWhile_congr fun entry hentry => congrArg not (hlacks entry hentry)]
    exact .inl ⟨rfl, rfl⟩
  · have hfind : b.entries.find? (r.lacks c) = some (var, address) := hfind
    refine .inr ⟨hloose, address, ?_⟩
    unfold gather
    rw [hfind]

/-- Outputs are scattered alike under an eased contract, or one is missing that the eased one does
not ask for. -/
theorem scatter_of_eases (h : c.Eases c') (r : Registers) (node : String) (b : Bindings)
    (output : Record) :
    (r.scatter node b output c' = r.scatter node b output c ∧
        scatterEvents node b output c' = scatterEvents node b output c) ∨
      ¬c'.Eases c ∧ ∃ var, r.scatter node b output c = (.error (.missingOutput node var), r) := by
  obtain hsame | ⟨hloose, ⟨var, address⟩, hfind⟩ :=
    h.scan (fun entry => (output.get? entry.1).isNone) b.entries
  · have hlacks : ∀ entry ∈ b.entries, output.lacks c' entry = output.lacks c entry := hsame
    unfold scatterEvents
    rw [scatter_eq, scatter_eq, List.find?_congr hlacks,
      takeWhile_congr fun entry hentry => congrArg not (hlacks entry hentry)]
    exact .inl ⟨rfl, rfl⟩
  · have hfind : b.entries.find? (output.lacks c) = some (var, address) := hfind
    refine .inr ⟨hloose, var, ?_⟩
    rw [scatter_eq, hfind]

end Registers

/-! ## Sites -/

/-- Two sites that differ in their contracts alone, which are related. -/
structure Site.Matches (R : Contract → Contract → Prop) (site site' : Site σ) : Prop where
  node : site'.node = site.node
  apparatus : site'.apparatus = site.apparatus
  inputs : site'.inputs = site.inputs
  call : site'.call = site.call
  contract : R site.contract site'.contract
  target : ∀ branch, (site'.exit branch).target = (site.exit branch).target
  bindings : ∀ branch, (site'.exit branch).bindings = (site.exit branch).bindings
  outputs : ∀ branch, R (site.exit branch).contract (site'.exit branch).contract

/-- A visit begins alike under foundries that match on the apparatus of the node, or both times at a
site of the node. -/
theorem Node.enter_of_matches {f g : Foundry σ} {n : Node}
    (h : ∀ name, n.apparatus? = some name → Apparatus.Matches R (f.get? name) (g.get? name))
    (a : Alignment) (o : Order) (r : Registers) :
    n.enter g a o r = n.enter f a o r ∨
      ∃ site site' : Site σ, n.enter f a o r = site.enter a r ∧ n.enter g a o r = site'.enter a r ∧
        site.Matches R site' ∧ site.node = n.label ∧ n.apparatus? = some site.apparatus := by
  cases n with
  | ingress i => exact .inl rfl
  | egress x => exact .inl rfl
  | process p =>
    have hmatches := h p.apparatus rfl
    dsimp only [Node.enter, Process.site, Foundry.processor?]
    generalize f.get? p.apparatus = found at hmatches ⊢
    generalize g.get? p.apparatus = found' at hmatches ⊢
    cases hmatches with
    | absent => exact .inl rfl
    | switcher => exact .inl rfl
    | processor process input output =>
      refine .inr ⟨_, _, rfl, rfl, ⟨rfl, rfl, rfl, ?_, input, fun _ => rfl, fun _ => rfl,
        fun _ => output⟩, rfl, rfl⟩
      dsimp only
      rw [process]
  | switch sw =>
    have hmatches := h sw.apparatus rfl
    dsimp only [Node.enter, Switch.site, Foundry.switcher?]
    generalize f.get? sw.apparatus = found at hmatches ⊢
    generalize g.get? sw.apparatus = found' at hmatches ⊢
    cases hmatches with
    | absent => exact .inl rfl
    | processor => exact .inl rfl
    | switcher check input whenTrue whenFalse =>
      refine .inr ⟨_, _, rfl, rfl, ⟨rfl, rfl, rfl, ?_, input, fun _ => rfl, fun _ => rfl,
        fun branch => ?_⟩, rfl, rfl⟩
      · dsimp only
        rw [check]
      · dsimp only [Switcher.outputFor]
        cases branch.getD true with
        | true => exact whenTrue
        | false => exact whenFalse

namespace Site.Matches

variable {site site' : Site σ}

/-- Both sites fail alike to begin, or the second is relieved, or both come to a call with the same
input. -/
theorem enter (hR : ∀ {c c'}, R c c' → c.Eases c') (h : site.Matches R site') (a : Alignment)
    (r : Registers) :
    (∃ events fault, site.enter a r = (events, .error fault, r) ∧
        site'.enter a r = (events, .error fault, r)) ∨
      (Contract.Loosens R ∧ ∃ events address,
        site.enter a r = (events, .error (.unboundRegister site.node address), r)) ∨
      ∃ events input, site.enter a r = (events, .ok (.calls site input), r) ∧
        site'.enter a r = (events, .ok (.calls site' input), r) := by
  unfold Site.enter
  rw [h.node, h.inputs]
  obtain ⟨hgather, hevents⟩ | ⟨hloose, address, hgather⟩ :=
    Registers.gather_of_eases (hR h.contract) r site.node site.inputs
  · rw [hgather, hevents]
    cases r.gather site.node site.inputs site.contract with
    | error fault => exact .inl ⟨_, fault, rfl, rfl⟩
    | ok input => exact .inr (.inr ⟨_, input, rfl, rfl⟩)
  · rw [hgather]
    exact .inr (.inl ⟨⟨_, _, h.contract, hloose⟩, _, address, rfl⟩)

/-- Both sites end alike, or the second is relieved. -/
theorem leave (hR : ∀ {c c'}, R c c' → c.Eases c') (h : site.Matches R site') (a : Alignment)
    (input : Record) (answer : Answer) (r : Registers) :
    site'.leave a input answer r = site.leave a input answer r ∨
      Contract.Loosens R ∧ ∃ events var,
        site.leave a input answer r = (events, .error (.missingOutput site.node var), r) := by
  have houtputs := h.outputs answer.branch
  unfold Site.leave
  dsimp only
  rw [h.node, h.target, h.bindings]
  obtain ⟨hscatter, hevents⟩ | ⟨hloose, var, hscatter⟩ := Registers.scatter_of_eases (hR houtputs) r
    site.node (site.exit answer.branch).bindings answer.record
  · rw [hscatter, hevents]
    exact .inl rfl
  · rw [hscatter]
    exact .inr ⟨⟨_, _, houtputs, hloose⟩, _, var, rfl⟩

end Site.Matches

/-! ## Visits and turns -/

/-- Something is absent at the node that one of two related contracts asks for and the other does
not. -/
structure Node.Relieved (R : Contract → Contract → Prop) (n : Node) (fault : Fault) : Prop where
  loosens : Contract.Loosens R
  calls : ∃ apparatus, n.apparatus? = some apparatus
  absent : (∃ address, fault = .unboundRegister n.label address) ∨
    ∃ var, fault = .missingOutput n.label var

namespace Operator

/-- The operator with another foundry. -/
def withFoundry (op : Operator σ μ) (g : Foundry σ) : Operator σ μ := { op with foundry := g }

variable {op : Operator σ μ} {g : Foundry σ} {a : Alignment} {e : Errand} {order : Order}
  {runId : RunId} {s : Session σ μ} {steps : List Step}

section

variable {n : Node} {p : Progress} {result : Except Fault (Visit a)} {r : Registers}
  {s' : Session σ μ}

/-- A visit that begins alike goes on alike. -/
theorem Visits.withFoundry_of_enter_eq
    (hsame : n.enter g a e.order p.registers = n.enter op.foundry a e.order p.registers)
    (hvisit : op.Visits a e p n s result r s') : (op.withFoundry g).Visits a e p n s result r s' := by
  cases hvisit with
  | refused enter => exact .refused (hsame.trans enter)
  | passed enter => exact .passed (hsame.trans enter)
  | interrupted enter await => exact .interrupted (hsame.trans enter) await
  | failed enter await => exact .failed (hsame.trans enter) await
  | left enter await leave => exact .left (hsame.trans enter) await leave

/-- A visit that comes to a call comes to the same call at a site that matches, and goes on alike
but where the second site is relieved of an output. -/
theorem Visits.withFoundry_of_calls (hR : ∀ {c c'}, R c c' → c.Eases c') {site site' : Site σ}
    (hmatches : site.Matches R site') {events : List Event} {input : Record}
    (henter : n.enter op.foundry a e.order p.registers =
      (events, .ok (.calls site input), p.registers))
    (henter' : n.enter g a e.order p.registers = (events, .ok (.calls site' input), p.registers))
    (hvisit : op.Visits a e p n s result r s') :
    (op.withFoundry g).Visits a e p n s result r s' ∨
      Contract.Loosens R ∧ ∃ var, result = .error (.missingOutput site.node var) := by
  have hcall : site'.call input = site.call input := congrFun hmatches.call input
  cases hvisit with
  | refused enter | passed enter => cases henter.symm.trans enter
  | interrupted enter await =>
    cases henter.symm.trans enter
    rw [← hcall, ← hmatches.apparatus] at await
    exact .inl (.interrupted henter' await)
  | failed enter await =>
    cases henter.symm.trans enter
    rw [← hcall, ← hmatches.apparatus] at await
    rw [← hmatches.node, ← hmatches.apparatus]
    exact .inl (.failed henter' await)
  | left enter await leave =>
    cases henter.symm.trans enter
    rw [← hcall, ← hmatches.apparatus] at await
    obtain hleave | ⟨hloose, said, var, hleave⟩ := hmatches.leave hR a input _ p.registers
    · exact .inl (.left henter' await (hleave.trans leave))
    · cases hleave.symm.trans leave
      exact .inr ⟨hloose, var, rfl⟩

/-- **A visit under a foundry that eases contracts is the same visit,** or it fails under the first
foundry and is relieved. -/
theorem Visits.withFoundry (hR : ∀ {c c'}, R c c' → c.Eases c')
    (h : ∀ name, n.apparatus? = some name → Apparatus.Matches R (op.foundry.get? name) (g.get? name))
    (hvisit : op.Visits a e p n s result r s') :
    (op.withFoundry g).Visits a e p n s result r s' ∨
      ∃ fault, result = .error fault ∧ n.Relieved R fault := by
  obtain hsame | ⟨site, site', henter, henter', hmatches, hnode, happaratus⟩ :=
    n.enter_of_matches h a e.order p.registers
  · exact .inl (hvisit.withFoundry_of_enter_eq hsame)
  obtain ⟨events, fault, hsite, hsite'⟩ | ⟨hloose, events, address, hsite⟩ |
    ⟨events, input, hsite, hsite'⟩ := hmatches.enter hR a p.registers
  · have hsame := (henter'.trans hsite').trans (henter.trans hsite).symm
    exact .inl (hvisit.withFoundry_of_enter_eq hsame)
  · rw [hsite] at henter
    cases hvisit with
    | refused enter =>
      cases henter.symm.trans enter
      exact .inr ⟨_, rfl, hloose, ⟨_, happaratus⟩, .inl ⟨address, hnode ▸ rfl⟩⟩
    | passed enter | interrupted enter | failed enter | left enter => cases henter.symm.trans enter
  · obtain hlike | ⟨hloose, var, hresult⟩ :=
      hvisit.withFoundry_of_calls hR hmatches (henter.trans hsite) (henter'.trans hsite')
    · exact .inl hlike
    · exact .inr ⟨_, hresult, hloose, ⟨_, happaratus⟩, .inr ⟨var, hnode ▸ rfl⟩⟩

end

/-- A turn that completes its visit is the same turn. -/
theorem turn_withFoundry (hR : ∀ {c c'}, R c c' → c.Eases c')
    (h : op.foundry.Matches R a.referencedApparatus g) {st : Stand σ μ a} {step : Step}
    {onward : Onward a} {p : Progress} {s : Session σ μ}
    (hturn : op.turn a e st = .completed step onward p s) :
    (op.withFoundry g).turn a e st = .completed step onward p s := by
  obtain ⟨admitted, v, registers, s', hcheck, hvisit, rfl, rfl, rfl, rfl⟩ := turn_completed hturn
  obtain hvisit | ⟨fault, hfault, -⟩ :=
    hvisit.withFoundry hR (Alignment.matches_of_mem h (a.node_mem st.place))
  · have hcheck' : (op.withFoundry g).checkpoint e.started (a.node st.place) st.progress st.session =
        .ok admitted := hcheck
    exact turn_of_complete hcheck' hvisit
  · cases hfault

/-! ## Runs -/

/-- A run is refused alike over foundries that match on what is referenced. -/
theorem preflight_withFoundry (h : op.foundry.Matches R a.referencedApparatus g) :
    (op.withFoundry g).preflight a = op.preflight a := by
  unfold preflight
  rw [show a.validate (op.withFoundry g).foundry = a.validate op.foundry from
    Alignment.validate_of_matches h]
  rfl

/-- A run stands over a foundry that eases its contracts wherever it stood before. -/
theorem Reaches.withFoundry (hR : ∀ {c c'}, R c c' → c.Eases c')
    (h : op.foundry.Matches R a.referencedApparatus g) {st : Stand σ μ a}
    (hreach : op.Reaches a order runId s steps st) :
    (op.withFoundry g).Reaches a order runId s steps st := by
  obtain ⟨place, hpreflight, htrail⟩ := hreach
  refine ⟨place, (preflight_withFoundry h).trans hpreflight, ?_⟩
  induction htrail with
  | entry => exact .entry
  | onward trail turn ih => exact .onward ih (turn_withFoundry hR h turn)

/-- **A run under a foundry that eases contracts is the same run,** or it comes to where the run
under the first foundry fails, and is relieved there. -/
theorem Runs.withFoundry (hR : ∀ {c c'}, R c c' → c.Eases c')
    (h : op.foundry.Matches R a.referencedApparatus g) {x : Report × Session σ μ}
    (hruns : op.Runs a order runId s steps x) :
    (op.withFoundry g).Runs a order runId s steps x ∨
      ∃ fault st, x.1.outcome = .error fault ∧ (a.node st.place).Relieved R fault ∧
        (op.withFoundry g).Reaches a order runId s steps st := by
  cases hruns with
  | refused preflight => exact .inl (.refused ((preflight_withFoundry h).trans preflight))
  | stopped reach check => exact .inl (.stopped (reach.withFoundry hR h) check)
  | @failed steps st admitted fault registers s' reach check visit =>
    have hreach := reach.withFoundry hR h
    obtain hvisit | ⟨_, hfault, hrelieved⟩ :=
      visit.withFoundry hR (Alignment.matches_of_mem h (a.node_mem st.place))
    · exact .inl (.failed hreach check hvisit)
    · cases hfault
      exact .inr ⟨fault, st, rfl, hrelieved, hreach⟩
  | arrived reach turn =>
    exact .inl (.arrived (reach.withFoundry hR h) (turn_withFoundry hR h turn))

/-- **A run sees a foundry through what its alignment references.**  When each referenced name is
absent from two foundries, or is that of apparatus of one kind and with one callable under whose
contracts the same vars may be absent, then validation answers the same and every run is the
same run, with all that it leaves behind; a run of another name reports the same. -/
theorem unreferenced_irrelevant (op : Operator σ μ) (g : Foundry σ) (a : Alignment)
    (h : op.foundry.Matches Contract.Alike a.referencedApparatus g) :
    a.validate g = a.validate op.foundry ∧
      ∀ (order : Order) (runId runId' : RunId) (s : Session σ μ),
        let r := (op.run a order runId s).1
        let r' := ((op.withFoundry g).run a order runId' s).1
        (op.withFoundry g).run a order runId s = op.run a order runId s ∧
          r'.outcome = r.outcome ∧ r'.registers = r.registers ∧ r'.visited = r.visited ∧
          r'.steps = r.steps ∧ r'.elapsed = r.elapsed := by
  refine ⟨Alignment.validate_of_matches h, fun order runId runId' s => ?_⟩
  have hrun : (op.withFoundry g).run a order runId s = op.run a order runId s := by
    obtain ⟨steps, hruns⟩ := op.exists_runs a order runId s
    obtain hsame | ⟨fault, st, -, hrelieved, -⟩ := hruns.withFoundry Contract.Alike.eases h
    · exact hsame.eq_run.symm
    · exact absurd hrelieved.loosens Contract.not_loosens_alike
  have hagrees := (op.withFoundry g).report_agrees a order runId' runId s
  rw [hrun] at hagrees
  exact ⟨hrun, hagrees.outcome, hagrees.registers, hagrees.visited, hagrees.steps,
    hagrees.elapsed⟩

/-- The idler with another description, and with a var that is declared to be required. -/
def wordyIdler : Processor Unit :=
  { idler with
    description := "waits"
    input := (∅ : Contract).insert "why" { name := "text" } }

/-- The apparatus of the turnstile under other words, beside one that is not referenced. -/
def wordy : Foundry Unit where
  apparatus := ((∅ : Named (Apparatus Unit)).insert "idle" (.processor wordyIdler)).insert "nap"
    (.processor { idler with name := "nap", named := by rfl })
  named := by
    intro e he
    obtain rfl | he := Named.mem_place he
    · rfl
    · obtain rfl | he := Named.mem_place he
      · rfl
      · cases he

/-- A run on the turnstile does not see the words. -/
theorem unreferenced_irrelevant_turnstile :
    idling.foundry.Matches Contract.Alike turnstile.referencedApparatus wordy ∧
      (idling.run turnstile ⟨"go", []⟩ (.ofNat 1) { store := (), kept := () }).1.steps = 10 ∧
      ((idling.withFoundry wordy).run turnstile ⟨"go", []⟩ (.ofNat 2)
        { store := (), kept := () }).1.outcome =
          (idling.run turnstile ⟨"go", []⟩ (.ofNat 1) { store := (), kept := () }).1.outcome := by
  have hmatches : idling.foundry.Matches Contract.Alike turnstile.referencedApparatus wordy := by
    intro name hname
    obtain rfl := List.mem_singleton.1 hname
    refine .processor rfl (fun var => ?_) fun _ => rfl
    refine (Contract.allowsAbsent_insert ∅ "why" var _).trans ?_
    split <;> rfl
  have hrun := (unreferenced_irrelevant idling wordy turnstile hmatches).2 ⟨"go", []⟩ (.ofNat 1)
    (.ofNat 2) { store := (), kept := () }
  exact ⟨hmatches, by decide +kernel, hrun.2.1⟩

/-- **To let more be absent never hurts.**  When a foundry eases the contracts of what an alignment
references, all else equal, the nodes that a run visits are visited first by the run under the
eased contracts; and both report the same, unless the run ended because something was
absent at a node with an apparatus. -/
theorem easing_extends (op : Operator σ μ) (g : Foundry σ) (a : Alignment)
    (h : op.foundry.Matches Contract.Eases a.referencedApparatus g) (order : Order)
    (runId runId' : RunId) (s : Session σ μ) :
    let r := (op.run a order runId s).1
    let r' := ((op.withFoundry g).run a order runId' s).1
    r.visited <+: r'.visited ∧
      ((∀ node var, r.outcome ≠ .error (.missingOutput node var)) →
        (∀ n ∈ a.operations, ∀ apparatus address, n.apparatus? = some apparatus →
          r.outcome ≠ .error (.unboundRegister n.label address)) →
            r'.outcome = r.outcome ∧ r'.registers = r.registers ∧ r'.visited = r.visited ∧
              r'.steps = r.steps ∧ r'.elapsed = r.elapsed) := by
  have hagrees := (op.withFoundry g).report_agrees a order runId' runId s
  dsimp only
  rw [hagrees.outcome, hagrees.registers, hagrees.visited, hagrees.steps, hagrees.elapsed]
  obtain ⟨steps, hruns⟩ := op.exists_runs a order runId s
  obtain hsame | ⟨fault, st, houtcome, hrelieved, hreach⟩ := hruns.withFoundry id h
  · rw [hsame.eq_run]
    exact ⟨List.prefix_rfl, fun _ _ => ⟨rfl, rfl, rfl, rfl, rfl⟩⟩
  · refine ⟨?_, fun hmissing hunbound => ?_⟩
    · rw [hruns.visited]
      exact hreach.visited_prefix
    · rw [houtcome] at hmissing hunbound
      obtain ⟨apparatus, happaratus⟩ := hrelieved.calls
      obtain ⟨address, rfl⟩ | ⟨var, rfl⟩ := hrelieved.absent
      · exact absurd rfl (hunbound _ (a.node_mem st.place) apparatus address happaratus)
      · exact absurd rfl (hmissing _ var)

/-- The idler when it need not be told why. -/
def trustingIdler : Processor Unit :=
  { idler with input := (∅ : Contract).insert "why" { name := "text", optional := true } }

/-- The apparatus of the turnstile, eased. -/
def trusting : Foundry Unit where
  apparatus := (∅ : Named (Apparatus Unit)).insert "idle" (.processor trustingIdler)
  named := by
    intro e he
    obtain rfl | he := Named.mem_place he
    · rfl
    · cases he

/-- The turnstile is bound for its limit on steps either way. -/
theorem easing_extends_turnstile :
    idling.foundry.Matches Contract.Eases turnstile.referencedApparatus trusting ∧
      (idling.run turnstile ⟨"go", []⟩ (.ofNat 1) { store := (), kept := () }).1.outcome =
        .error (.stepLimitExceeded 10 "turn") ∧
      (idling.run turnstile ⟨"go", []⟩ (.ofNat 1) { store := (), kept := () }).1.visited <+:
        ((idling.withFoundry trusting).run turnstile ⟨"go", []⟩ (.ofNat 2)
          { store := (), kept := () }).1.visited ∧
      ((idling.withFoundry trusting).run turnstile ⟨"go", []⟩ (.ofNat 2)
        { store := (), kept := () }).1.outcome =
          (idling.run turnstile ⟨"go", []⟩ (.ofNat 1) { store := (), kept := () }).1.outcome := by
  have hmatches : idling.foundry.Matches Contract.Eases turnstile.referencedApparatus trusting := by
    intro name hname
    obtain rfl := List.mem_singleton.1 hname
    exact .processor rfl (Contract.eases_insert ∅ rfl) (Contract.Eases.refl ∅)
  have houtcome :
      (idling.run turnstile ⟨"go", []⟩ (.ofNat 1) { store := (), kept := () }).1.outcome =
        .error (.stepLimitExceeded 10 "turn") := by with_unfolding_all rfl
  obtain ⟨hvisited, hsame⟩ := easing_extends idling trusting turnstile hmatches ⟨"go", []⟩ (.ofNat 1)
    (.ofNat 2) { store := (), kept := () }
  rw [houtcome] at hsame ⊢
  exact ⟨hmatches, rfl, hvisited, (hsame nofun nofun).1⟩

end Operator
end ApparatusGraph
