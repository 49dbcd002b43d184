/-
# Runs and the names of addresses

A run on an alignment under other addresses is the same run, with its registers under these
addresses (`Operator.renaming_irrelevant`).  Visit by visit, what is fed to the apparatus is the
same, since records go by vars; what is written goes to the renamed addresses in the same
order; and the first thing that is missing is the same.  So the two runs go through the
same places, and only the address in a fault betrays which is which.

What is said about a skipped input names its address, and the outputs of an ingress go by
addresses.  Neither comes back into a run, so sessions are compared without what was said and kept
(`Session.bare`), and visits by where they lead.
-/

import ApparatusGraph.Proofs.Alignment.Renaming
import ApparatusGraph.Proofs.Run.Boundary
import ApparatusGraph.Proofs.Run.Declaration

namespace ApparatusGraph

variable {σ μ : Type} {f : Address → Address} {a : Alignment}

/-! ## Sites -/

/-- The site under other addresses. -/
def Site.rename (f : Address → Address) (site : Site σ) : Site σ :=
  { site with
    inputs := site.inputs.map f
    exit := fun branch =>
      { site.exit branch with bindings := (site.exit branch).bindings.map f } }

/-- The site of a renamed process is the renamed site. -/
theorem Process.site_rename (g : Foundry σ) (p : Process) :
    (p.rename f).site g = (Site.rename f <$> p.site g).mapError (Fault.rename f) := by
  unfold Process.site
  dsimp only [Process.rename]
  cases g.processor? p.apparatus <;> rfl

/-- A renamed switch goes on where it did, and binds the renamed addresses. -/
theorem Switch.branch_rename (s : Switch) (verdict : Bool) :
    (s.rename f).branch verdict = ((s.branch verdict).1, (s.branch verdict).2.map f) := by
  cases verdict <;> rfl

/-- The site of a renamed switch is the renamed site. -/
theorem Switch.site_rename (g : Foundry σ) (s : Switch) :
    (s.rename f).site g = (Site.rename f <$> s.site g).mapError (Fault.rename f) := by
  unfold Switch.site
  simp only [Switch.branch_rename]
  dsimp only [Switch.rename]
  cases g.switcher? s.apparatus <;> rfl

/-- A renamed ingress makes its writes at the renamed addresses. -/
theorem Ingress.writes_rename (i : Ingress) (o : Order) :
    (i.rename f).writes o = (i.writes o).map (Prod.map f id) := by
  unfold Ingress.writes
  simp only [Ingress.rename, List.map_cons, List.zip_map_left, List.map_map]
  rfl

/-- Edges lead to the same places under other addresses. -/
theorem Alignment.follow_rename (node target : String) :
    (a.rename f).follow node target =
      (Alignment.renamed f <$> a.follow node target).mapError (Fault.rename f) := by
  unfold Alignment.follow
  rw [Alignment.resolve?_rename]
  cases a.resolve? target <;> rfl

/-! ## Visits -/

/-- Visits that lead to the same place, or fail for the same reason. -/
inductive Visit.Renamed (f : Address → Address) :
    Except Fault (Visit a) → Except Fault (Visit (a.rename f)) → Prop where
  | failed {fault fault'} (h : fault' = fault.rename f) : Renamed f (.error fault) (.error fault')
  | complete {v v'} (h : v'.onward = v.onward.map (Alignment.renamed f)) :
      Renamed f (.ok v) (.ok v')

/-- Visits that begin alike: they fail for the same reason, lead to the same place, or come to the
same call with the same input. -/
inductive Entered.Renamed (f : Address → Address) :
    Except Fault (Entered σ a) → Except Fault (Entered σ (a.rename f)) → Prop where
  | failed {fault fault'} (h : fault' = fault.rename f) : Renamed f (.error fault) (.error fault')
  | visited {v v'} (h : v'.onward = v.onward.map (Alignment.renamed f)) :
      Renamed f (.ok (.visited v)) (.ok (.visited v'))
  | calls (site : Site σ) (input : Record) :
      Renamed f (.ok (.calls site input)) (.ok (.calls (site.rename f) input))

/-- A visit that is over at its beginning is renamed like the visit. -/
theorem Entered.Renamed.of_visit {visit : Except Fault (Visit a)}
    {visit' : Except Fault (Visit (a.rename f))} (h : Visit.Renamed f visit visit') :
    Entered.Renamed f (Entered.visited (σ := σ) <$> visit) (Entered.visited <$> visit') := by
  cases h with
  | failed h => exact .failed h
  | complete h => exact .visited h

section

variable (hf : f.Injective)

include hf

/-- The visit of a renamed ingress is the renamed visit, and so are the registers after it. -/
theorem Ingress.visit_rename (i : Ingress) (o : Order) (r : Registers) :
    Visit.Renamed f (i.visit a o r).1 ((i.rename f).visit (a.rename f) o (r.rename f)).1 ∧
      ((i.rename f).visit (a.rename f) o (r.rename f)).2 = (i.visit a o r).2.rename f := by
  unfold Ingress.visit
  rw [Ingress.writes_rename, ← Registers.rename_writeAll hf]
  dsimp only [Ingress.rename]
  rw [Alignment.follow_rename]
  cases a.follow ingressLabel i.next with
  | error fault => exact ⟨.failed rfl, rfl⟩
  | ok place => exact ⟨.complete rfl, rfl⟩

/-- The visit of a renamed egress is the renamed visit. -/
theorem Egress.visit_rename (e : Egress) (r : Registers) :
    Visit.Renamed f (e.visit a r) ((e.rename f).visit (a.rename f) (r.rename f)) := by
  have hunbound : (fun entry : Var × Address => ((r.rename f).read entry.2).isNone) ∘
      Prod.map id f = fun entry => (r.read entry.2).isNone := by
    funext entry
    exact congrArg Option.isNone (Registers.read_rename hf r entry.2)
  have hrecord {β : Type} (g : Option Param → Option β) :
      (e.result.map f).filterMap (fun _ address => g ((r.rename f).read address)) =
        e.result.filterMap fun _ address => g (r.read address) := by
    simp only [Named.filterMap_map, Registers.read_rename hf]
  unfold Egress.visit
  dsimp only [Egress.rename]
  rw [Named.entries_map, List.find?_map, hunbound, hrecord fun found => found.map (·.value)]
  cases e.result.entries.find? (fun entry => (r.read entry.2).isNone) with
  | some entry => exact .failed rfl
  | none => exact .complete rfl

/-- The beginning at a renamed site is the renamed beginning. -/
theorem Site.enter_rename (site : Site σ) (r : Registers) :
    Entered.Renamed f (site.enter a r).2.1 ((site.rename f).enter (a.rename f) (r.rename f)).2.1 := by
  unfold Site.enter
  dsimp only [Site.rename]
  rw [Registers.gather_rename hf]
  cases r.gather site.node site.inputs site.contract with
  | error fault => exact .failed rfl
  | ok input => exact .calls site input

/-- **A visit begins alike under other addresses.** -/
theorem Node.enter_rename (n : Node) (g : Foundry σ) (o : Order) (r : Registers) :
    Entered.Renamed f (n.enter g a o r).2.1
        ((n.rename f).enter g (a.rename f) o (r.rename f)).2.1 ∧
      ((n.rename f).enter g (a.rename f) o (r.rename f)).2.2 = (n.enter g a o r).2.2.rename f := by
  cases n with
  | ingress i =>
    obtain ⟨hvisit, hregisters⟩ := i.visit_rename (a := a) hf o r
    exact ⟨.of_visit hvisit, hregisters⟩
  | egress e => exact ⟨.of_visit (e.visit_rename hf r), rfl⟩
  | process p =>
    dsimp only [Node.enter, Node.rename]
    rw [Process.site_rename]
    cases p.site g with
    | error fault => exact ⟨.failed rfl, rfl⟩
    | ok site => exact ⟨site.enter_rename hf r, rfl⟩
  | switch s =>
    dsimp only [Node.enter, Node.rename]
    rw [Switch.site_rename]
    cases s.site g with
    | error fault => exact ⟨.failed rfl, rfl⟩
    | ok site => exact ⟨site.enter_rename hf r, rfl⟩

/-- The end at a renamed site is the renamed end, and so are the registers after it. -/
theorem Site.leave_rename (site : Site σ) (input : Record) (answer : Answer) (r : Registers) :
    Visit.Renamed f (site.leave a input answer r).2.1
        ((site.rename f).leave (a.rename f) input answer (r.rename f)).2.1 ∧
      ((site.rename f).leave (a.rename f) input answer (r.rename f)).2.2 =
        (site.leave a input answer r).2.2.rename f := by
  unfold Site.leave
  dsimp only [Site.rename]
  rw [Registers.scatter_rename hf]
  rcases r.scatter site.node (site.exit answer.branch).bindings answer.record
      (site.exit answer.branch).contract with ⟨scattered, r'⟩
  cases scattered with
  | error fault => exact ⟨.failed rfl, rfl⟩
  | ok passed =>
    dsimp only [Except.mapError]
    rw [Alignment.follow_rename]
    cases a.follow site.node (site.exit answer.branch).target with
    | error fault => exact ⟨.failed rfl, rfl⟩
    | ok place => exact ⟨.complete rfl, rfl⟩

end

/-! ## Turns -/

/-- The progress of a run under other addresses. -/
def Progress.rename (f : Address → Address) (p : Progress) : Progress :=
  { p with registers := p.registers.rename f }

/-- As many visits are counted under other addresses. -/
theorem Progress.steps_rename (p : Progress) : (p.rename f).steps = p.steps := rfl

/-- The progress past a renamed node is the renamed progress. -/
theorem Progress.past_rename (p : Progress) (n : Node) (r : Registers) :
    (p.rename f).past (n.rename f) (r.rename f) = (p.past n r).rename f := by
  unfold past
  rw [n.waypoint_rename]
  rfl

/-- Stands at the same place, with the same registers under other addresses. -/
structure Stand.Renamed (f : Address → Address) (st : Stand σ μ a) (st' : Stand σ μ (a.rename f)) :
    Prop where
  place : st'.place = Alignment.renamed f st.place
  progress : st'.progress = st.progress.rename f
  session : st.session.bare = st'.session.bare

/-- Turns that lead to the same place, or end a run for the same reason. -/
inductive Turn.Renamed (f : Address → Address) : Turn σ μ a → Turn σ μ (a.rename f) → Prop where
  | halted {fault fault' p s t} (hfault : fault' = fault.rename f) (h : s.bare = t.bare) :
      Renamed f (.halted fault p s) (.halted fault' (p.rename f) t)
  | completed {step step' onward p s t} (h : s.bare = t.bare) :
      Renamed f (.completed step onward p s)
        (.completed step' (onward.map (Alignment.renamed f)) (p.rename f) t)

namespace Operator

variable (op : Operator σ μ) {e : Errand} {s t : Session σ μ}

/-- **A visit is the same visit under other addresses.** -/
theorem visit_rename (hf : f.Injective) (e : Errand) (p : Progress) (n : Node)
    (h : s.bare = t.bare) :
    Visit.Renamed f (op.visit a e p n s).1
        (op.visit (a.rename f) e (p.rename f) (n.rename f) t).1 ∧
      (op.visit (a.rename f) e (p.rename f) (n.rename f) t).2.1 =
        (op.visit a e p n s).2.1.rename f ∧
      (op.visit a e p n s).2.2.bare =
        (op.visit (a.rename f) e (p.rename f) (n.rename f) t).2.2.bare := by
  have hbegun := n.enter_rename (a := a) hf op.foundry e.order p.registers
  revert hbegun
  unfold visit
  dsimp only [Progress.rename]
  rcases n.enter op.foundry a e.order p.registers with ⟨events, entered, r⟩
  rcases (n.rename f).enter op.foundry (a.rename f) e.order (p.registers.rename f) with
    ⟨events', entered', r'⟩
  rintro ⟨hentered, rfl : r' = r.rename f⟩
  dsimp only at hentered ⊢
  cases hentered with
  | failed hfault => exact ⟨.failed hfault, rfl, by simpa using h⟩
  | visited honward => exact ⟨.complete honward, rfl, by simpa using h⟩
  | calls site input =>
    have hinvoked : ((s.sayAll events).invoke site.apparatus input).bare =
        ((t.sayAll events').invoke site.apparatus input).bare := by
      rw [Session.bare_invoke, Session.bare_invoke, Session.bare_sayAll, Session.bare_sayAll, h]
    have hawait := Call.await_bare (op.deadline e.started) (site.call input) hinvoked
    revert hawait
    dsimp only [Site.rename]
    rcases (site.call input).await (op.deadline e.started)
      ((s.sayAll events).invoke site.apparatus input) with ⟨ended, s'⟩
    rcases (site.call input).await (op.deadline e.started)
      ((t.sayAll events').invoke site.apparatus input) with ⟨ended', t'⟩
    rintro ⟨rfl : ended = ended', hafter : s'.bare = t'.bare⟩
    cases ended with
    | interrupted why =>
      refine ⟨.failed ?_, rfl, hafter⟩
      rw [Session.now_eq_of_bare hafter]
      cases why <;> rfl
    | answered result =>
      cases result with
      | error cause => exact ⟨.failed rfl, rfl, hafter⟩
      | ok answer =>
        obtain ⟨hleft, hregisters⟩ := site.leave_rename (a := a) hf input answer r
        refine ⟨hleft, hregisters, ?_⟩
        rw [Session.bare_sayAll, Session.bare_sayAll]
        exact hafter

/-- The checks before a visit do not look at addresses. -/
theorem checkpoint_rename (e : Errand) (n : Node) (p : Progress) (h : s.bare = t.bare) :
    op.checkpoint e.started (n.rename f) (p.rename f) t =
      (Progress.rename f <$> op.checkpoint e.started n p s).mapError (Fault.rename f) := by
  rw [show op.checkpoint e.started n p s = op.checkpoint e.started n p t from
    checkpoint_bare op.foundry op.limits op.medium op.medium e n p h]
  unfold checkpoint
  rw [n.label_rename, p.steps_rename]
  cases hinterrupted : op.interruption? e.started p.steps.toNat t with
  | some fault =>
    obtain ⟨-, rfl⟩ | ⟨-, rfl⟩ := interruption_eq_some hinterrupted
    · rfl
    · rfl
  | none =>
    dsimp only
    by_cases hlimit : op.limits.maxSteps ≤ p.steps
    · rw [if_pos hlimit, if_pos hlimit]
      rfl
    · rw [if_neg hlimit, if_neg hlimit]
      rfl

/-- **A turn is the same turn under other addresses.** -/
theorem turn_rename (hf : f.Injective) (e : Errand) {st : Stand σ μ a}
    {st' : Stand σ μ (a.rename f)} (h : st.Renamed f st') :
    Turn.Renamed f (op.turn a e st) (op.turn (a.rename f) e st') := by
  unfold turn
  dsimp only
  rw [h.place, Alignment.node_renamed, h.progress, op.checkpoint_rename _ _ _ h.session]
  cases op.checkpoint e.started (a.node st.place) st.progress st.session with
  | error fault => exact .halted rfl h.session
  | ok p =>
    have hvisit := op.visit_rename (a := a) hf e p (a.node st.place) h.session
    revert hvisit
    dsimp only [Functor.map, Except.map, Except.mapError]
    rcases op.visit a e p (a.node st.place) st.session with ⟨result, r, s⟩
    rcases op.visit (a.rename f) e (p.rename f) ((a.node st.place).rename f) st'.session with
      ⟨result', r', t⟩
    rintro ⟨hresult, rfl : r' = r.rename f, hafter : s.bare = t.bare⟩
    cases hresult with
    | failed hfault => exact .halted hfault hafter
    | complete honward =>
      dsimp only
      rw [honward, p.past_rename]
      exact .completed hafter

/-! ## Runs -/

/-- **A walk is the same walk under other addresses.** -/
theorem walk_rename (hf : f.Injective) (e : Errand) {st : Stand σ μ a}
    {st' : Stand σ μ (a.rename f)} (h : st.Renamed f st') :
    (op.walk (a.rename f) e st').1 = (op.walk a e st).1.mapError (Fault.rename f) ∧
      (op.walk (a.rename f) e st').2.1 = (op.walk a e st).2.1.rename f ∧
      (op.walk a e st).2.2.bare = (op.walk (a.rename f) e st').2.2.bare := by
  have hturns := op.turn_rename hf e h
  generalize hs : op.turn a e st = turn at hturns
  generalize ht : op.turn (a.rename f) e st' = turn' at hturns
  cases hturns with
  | halted hfault hafter =>
    rw [walk_halted hs, walk_halted ht]
    exact ⟨congrArg Except.error hfault, rfl, hafter⟩
  | @completed step step' onward p s t hafter =>
    have hemitted : (op.emit step s).bare = (op.emit step' t).bare := by
      rw [bare_emit, bare_emit, hafter]
    cases onward with
    | done output =>
      rw [walk_done hs, walk_done ht]
      exact ⟨rfl, rfl, hemitted⟩
    | next place =>
      have := turn_completed_lt hs
      rw [walk_next hs, walk_next ht]
      exact walk_rename hf e ⟨rfl, rfl, hemitted⟩
termination_by op.limits.maxSteps.toNat - st.progress.steps.toNat

/-- A run is refused alike under other addresses. -/
theorem preflight_rename (a : Alignment) :
    op.preflight (a.rename f) = Alignment.renamed f <$> op.preflight a := by
  unfold preflight
  rw [Alignment.validate_rename, Alignment.entry?_rename]
  cases op.limits.validate with
  | error cause => rfl
  | ok passed =>
    cases a.validate op.foundry with
    | error fault => rfl
    | ok valid => cases a.entry? <;> rfl

/-- A run under other addresses ends as the run does. -/
theorem travel_rename (hf : f.Injective) (e : Errand) (h : s.bare = t.bare) :
    (op.travel (a.rename f) e t).1 = (op.travel a e s).1.mapError (Fault.rename f) ∧
      (op.travel (a.rename f) e t).2.1 = (op.travel a e s).2.1.rename f ∧
      (op.travel a e s).2.2.bare = (op.travel (a.rename f) e t).2.2.bare := by
  unfold travel
  rw [preflight_rename]
  cases hpreflight : op.preflight a with
  | error fault =>
    have hkind : fault.kind ≠ .unboundRegister := fun heq =>
      preflight_error_kind hpreflight (heq ▸ List.mem_cons_self)
    exact ⟨congrArg Except.error (Fault.rename_of_kind hkind).symm, rfl, h⟩
  | ok place => exact op.walk_rename hf e ⟨rfl, rfl, h⟩

/-- **Addresses are opaque.**  A run on an alignment under other addresses, different ones for
different addresses, visits the same nodes in as many steps and in the same time; it ends with the
same registers under these addresses, after as many writes; and it ends in the same output or the
same fault, but for the address of a register that was not bound. -/
theorem renaming_irrelevant (op : Operator σ μ) (a : Alignment) (f : Address → Address)
    (hf : f.Injective) (order : Order) (runId runId' : RunId) (s : Session σ μ) :
    let r := (op.run a order runId s).1
    let r' := (op.run (a.rename f) order runId' s).1
    r'.visited = r.visited ∧ r'.steps = r.steps ∧ r'.elapsed = r.elapsed ∧
      r'.registers.writes = r.registers.writes ∧ r'.registers = r.registers.rename f ∧
      r'.outcome = r.outcome.mapError (Fault.rename f) := by
  have hagrees := op.report_agrees (a.rename f) order runId' runId s
  dsimp only
  rw [hagrees.outcome, hagrees.registers, hagrees.visited, hagrees.steps, hagrees.elapsed]
  have htravel := op.travel_rename (a := a) hf ⟨runId, order, s.now⟩
    (s := s.say (.runOpened a.size)) (t := s.say (.runOpened (a.rename f).size)) rfl
  revert htravel
  unfold run conclude
  dsimp only
  rcases op.travel a ⟨runId, order, s.now⟩ (s.say (.runOpened a.size)) with ⟨outcome, p, s'⟩
  rcases op.travel (a.rename f) ⟨runId, order, s.now⟩ (s.say (.runOpened (a.rename f).size)) with
    ⟨outcome', p', t'⟩
  rintro ⟨rfl : outcome' = _, rfl : p' = p.rename f, hafter : s'.bare = t'.bare⟩
  refine ⟨rfl, rfl, ?_, rfl, rfl, rfl⟩
  show t'.now - s.now = s'.now - s.now
  rw [Session.now_eq_of_bare hafter]

/-- A node that is to be told why, from a register that nothing is written to. -/
def unasked : Alignment where
  operations := [
    .ingress { next := "turn", promptAddr := "order" },
    .process {
      name := "turn"
      apparatus := "idle"
      inputs := (∅ : Bindings).insert "why" "reason"
      next := "end" },
    .egress { name := "end" }]

/-- The register that is missing goes by its new name. -/
theorem renaming_irrelevant_unasked :
    let f (address : Address) : Address := "r." ++ address
    f.Injective ∧
      (idling.run unasked ⟨"go", []⟩ (.ofNat 1) { store := (), kept := () }).1.outcome =
        .error (.unboundRegister "turn" "reason") ∧
      (idling.run (unasked.rename f) ⟨"go", []⟩ (.ofNat 2) { store := (), kept := () }).1.outcome =
        .error (.unboundRegister "turn" "r.reason") := by
  intro f
  have hf : f.Injective := fun _ _ => (String.append_right_inj "r.").1
  have houtcome :
      (idling.run unasked ⟨"go", []⟩ (.ofNat 1) { store := (), kept := () }).1.outcome =
        .error (.unboundRegister "turn" "reason") := by with_unfolding_all rfl
  obtain ⟨-, -, -, -, -, hrenamed⟩ := renaming_irrelevant idling unasked f hf ⟨"go", []⟩ (.ofNat 1)
    (.ofNat 2) { store := (), kept := () }
  refine ⟨hf, houtcome, hrenamed.trans ?_⟩
  rw [houtcome]
  rfl

end Operator
end ApparatusGraph
