/-
# Runs and the order of declaration

A run on an alignment is a run on every alignment that has the same nodes among its own:
the two go through the same nodes with the same registers, at places that the map of
`Alignment.Embeds` carries over.  Visits, turns and trails are carried over one by one,
each an equation (`Embeds.visit`, `Operator.turn_map`), so `Trail.simulate` applies.

The two runs have their own identifiers and media, and they say different things at their
beginning, since one alignment may be larger than the other.  So sessions are compared
without what is kept and what was said, and steps up to the identifier of the run.
-/

import ApparatusGraph.Proofs.Alignment.Declaration
import ApparatusGraph.Proofs.Run.Simulation

namespace ApparatusGraph

variable {σ μ ν : Type} {a b : Alignment} {φ : Fin a.size → Fin b.size}

/-- Where a visit leads, in another alignment. -/
def Onward.map (φ : Fin a.size → Fin b.size) : Onward a → Onward b
  | .next place => .next (φ place)
  | .done output => .done output

/-- A complete visit, in another alignment. -/
def Visit.map (φ : Fin a.size → Fin b.size) (v : Visit a) : Visit b where
  inputs := v.inputs
  outputs := v.outputs
  branch := v.branch
  onward := v.onward.map φ

/-- The beginning of a visit, in another alignment. -/
def Entered.map (φ : Fin a.size → Fin b.size) : Entered σ a → Entered σ b
  | .visited v => .visited (v.map φ)
  | .calls site input => .calls site input

/-- A stand, in another alignment. -/
def Stand.map (φ : Fin a.size → Fin b.size) (st : Stand σ μ a) : Stand σ μ b :=
  ⟨φ st.place, st.progress, st.session⟩

/-- The step of another run. -/
def Step.ofRun (step : Step) (runId : RunId) : Step := { step with runId }

/-- A turn, in another alignment and of another run. -/
def Turn.map (φ : Fin a.size → Fin b.size) (runId : RunId) : Turn σ μ a → Turn σ μ b
  | .completed step onward p s => .completed (step.ofRun runId) (onward.map φ) p s
  | .halted fault p s => .halted fault p s

/-- A site leads along an edge of its node, whatever is answered. -/
theorem Node.target_mem_successors {f : Foundry σ} {n : Node} {o : Order} {r r' : Registers}
    {events : List Event} {site : Site σ} {input : Record}
    (h : n.enter f a o r = (events, .ok (.calls site input), r')) (branch : Option Bool) :
    (site.exit branch).target ∈ n.successors := by
  obtain ⟨p, rfl, hsite⟩ | ⟨sw, rfl, hsite⟩ := Node.site_of_enter h
  · unfold Process.site at hsite
    split at hsite
    · cases hsite
    · cases hsite
      exact List.mem_singleton_self _
  · unfold Switch.site at hsite
    split at hsite
    · cases hsite
    · cases hsite
      have hedge : (Node.switch sw).edge? (some (branch.getD true)) =
          some (sw.branch (branch.getD true)).1 := rfl
      exact edge_mem_successors hedge

namespace Alignment.Embeds

/-- An edge leads to the same node of the other alignment. -/
theorem follow (h : a.Embeds b φ) {n : Node} (hn : n ∈ a.operations) {target : String}
    (htarget : target ∈ n.successors) (node : String) :
    b.follow node target = φ <$> a.follow node target := by
  unfold Alignment.follow
  rw [h.resolve n hn target htarget]
  cases a.resolve? target <;> rfl

/-- The visit of a node begins alike in both alignments. -/
theorem enter (h : a.Embeds b φ) {n : Node} (hn : n ∈ a.operations) (f : Foundry σ) (o : Order)
    (r : Registers) :
    n.enter f b o r =
      ((n.enter f a o r).1, Entered.map φ <$> (n.enter f a o r).2.1, (n.enter f a o r).2.2) := by
  have hsite (site : Site σ) : site.enter b r =
      ((site.enter a r).1, Entered.map φ <$> (site.enter a r).2.1, (site.enter a r).2.2) := by
    unfold Site.enter
    cases r.gather site.node site.inputs site.contract <;> rfl
  cases n with
  | ingress i =>
    dsimp only [Node.enter, Ingress.visit]
    rw [h.follow hn (List.mem_singleton_self i.next)]
    cases a.follow ingressLabel i.next <;> rfl
  | process p =>
    dsimp only [Node.enter]
    cases p.site f with
    | error fault => rfl
    | ok site => exact hsite site
  | switch sw =>
    dsimp only [Node.enter]
    cases sw.site f with
    | error fault => rfl
    | ok site => exact hsite site
  | egress x =>
    dsimp only [Node.enter, Egress.visit]
    split <;> rfl

/-- The visit of a site ends alike in both alignments. -/
theorem leave (h : a.Embeds b φ) {n : Node} (hn : n ∈ a.operations) {site : Site σ}
    {answer : Answer} (htarget : (site.exit answer.branch).target ∈ n.successors) (input : Record)
    (r : Registers) :
    site.leave b input answer r =
      ((site.leave a input answer r).1, Visit.map φ <$> (site.leave a input answer r).2.1,
        (site.leave a input answer r).2.2) := by
  unfold Site.leave
  dsimp only
  rcases r.scatter site.node (site.exit answer.branch).bindings answer.record
      (site.exit answer.branch).contract with ⟨scattered, r'⟩
  cases scattered with
  | error fault => rfl
  | ok passed =>
    dsimp only
    rw [h.follow hn htarget]
    cases a.follow site.node (site.exit answer.branch).target <;> rfl

/-- The visit of a node in another alignment is the same visit, and leads to the same node. -/
theorem visit (h : a.Embeds b φ) {n : Node} (hn : n ∈ a.operations) (op : Operator σ μ) (e : Errand)
    (runId : RunId) (p : Progress) (s : Session σ μ) :
    op.visit b { e with runId } p n s =
      (Visit.map φ <$> (op.visit a e p n s).1, (op.visit a e p n s).2.1,
        (op.visit a e p n s).2.2) := by
  unfold Operator.visit
  rw [h.enter hn]
  rcases henter : n.enter op.foundry a e.order p.registers with ⟨events, entered, r⟩
  cases entered with
  | error fault => rfl
  | ok begun =>
    cases begun with
    | visited v => rfl
    | calls site input =>
      dsimp only [Functor.map, Except.map, Entered.map]
      split
      · rfl
      · rfl
      · rename_i answer s' hawait
        rw [h.leave hn (Node.target_mem_successors henter answer.branch)]
        rfl

end Alignment.Embeds

namespace Operator

variable {op : Operator σ μ} {e : Errand} {order : Order} {runId : RunId}
  {s t : Session σ μ} {steps : List Step}

/-- A turn in another alignment is the same turn, and leads to the same node. -/
theorem turn_map (h : a.Embeds b φ) (op : Operator σ μ) (e : Errand) (runId : RunId)
    (st : Stand σ μ a) :
    op.turn b { e with runId } (st.map φ) = (op.turn a e st).map φ runId := by
  unfold turn
  dsimp only [Stand.map]
  rw [h.node]
  cases op.checkpoint e.started (a.node st.place) st.progress st.session with
  | error fault => rfl
  | ok p =>
    dsimp only
    rw [h.visit (a.node_mem st.place)]
    rcases op.visit a e p (a.node st.place) st.session with ⟨result, r, s⟩
    cases result <;> rfl

/-- From a stand that is the same but for the medium and what was said, a turn is the same. -/
theorem turn_bare_map (h : a.Embeds b φ) (op : Operator σ μ) (m : Option (Medium ν)) (e : Errand)
    (runId : RunId) {st : Stand σ μ a} {st' : Stand σ ν b} (hst : (st.map φ).bare = st'.bare) :
    ((op.withMedium m).turn b { e with runId } st').bare = ((op.turn a e st).map φ runId).bare := by
  rw [← turn_map h]
  exact (turn_bare op.foundry op.limits op.medium m b { e with runId } hst).symm

/-- A turn that completes its visit does so in both alignments. -/
theorem turn_map_next (h : a.Embeds b φ) (m : Option (Medium ν)) (runId : RunId)
    {st : Stand σ μ a} {st' : Stand σ ν b} (hst : (st.map φ).bare = st'.bare) {step : Step}
    {onward : Onward a} {p : Progress} (hturn : op.turn a e st = .completed step onward p s) :
    ∃ t, (op.withMedium m).turn b { e with runId } st' =
      .completed (step.ofRun runId) (onward.map φ) p t ∧ t.bare = s.bare := by
  have hbare := turn_bare_map h op m e runId hst
  rw [hturn] at hbare
  exact Turn.eq_completed_of_bare hbare

/-- A turn that ends a run does so in both alignments. -/
theorem turn_map_halted (h : a.Embeds b φ) (m : Option (Medium ν)) (runId : RunId)
    {st : Stand σ μ a} {st' : Stand σ ν b} (hst : (st.map φ).bare = st'.bare) {fault : Fault}
    {p : Progress} (hturn : op.turn a e st = .halted fault p s) :
    ∃ t, (op.withMedium m).turn b { e with runId } st' = .halted fault p t ∧
      t.bare = s.bare := by
  have hbare := turn_bare_map h op m e runId hst
  rw [hturn] at hbare
  exact Turn.eq_halted_of_bare hbare

/-! ## Runs -/

/-- Alignments that are both valid begin at the same node, or are both refused for the limits. -/
theorem preflight_map (h : a.Embeds b φ) (op : Operator σ μ)
    (ha : a.validate op.foundry = .ok ()) (hb : b.validate op.foundry = .ok ()) :
    op.preflight b = φ <$> op.preflight a := by
  unfold preflight
  rw [ha, hb, h.entry]
  cases op.limits.validate with
  | error cause => rfl
  | ok passed => cases a.entry? <;> rfl

section

variable {t : Session σ ν}

/-- A run stands at the same node of the other alignment, and has made the same steps. -/
theorem Reaches.map (h : a.Embeds b φ) (m : Option (Medium ν)) (runId' : RunId)
    (hpreflight : op.preflight b = φ <$> op.preflight a) (hst : s.bare = t.bare)
    {st : Stand σ μ a} (hreach : op.Reaches a order runId s steps st) :
    ∃ st', (op.withMedium m).Reaches b order runId' t (steps.map (·.ofRun runId')) st' ∧
      (st.map φ).bare = st'.bare := by
  obtain ⟨place, hplace, htrail⟩ := hreach
  have hbegun : (Stand.map φ ⟨place, {}, s.say (.runOpened a.size)⟩).bare =
      Stand.bare ⟨φ place, {}, t.say (.runOpened b.size)⟩ := congrArg (Stand.mk (φ place) {}) hst
  have hturns : ∀ {st : Stand σ μ a} {st' : Stand σ ν b} {step place p s},
      (st.map φ).bare = st'.bare →
      op.turn a ⟨runId, order, t.now⟩ st = .completed step (.next place) p s →
        ∃ place' p' s', (op.withMedium m).turn b ⟨runId', order, t.now⟩ st' =
            .completed (step.ofRun runId') (.next place') p' s' ∧
          (Stand.map φ ⟨place, p, op.emit step s⟩).bare =
            Stand.bare ⟨place', p', (op.withMedium m).emit (step.ofRun runId') s'⟩ := by
    intro st st' step place p s hst hturn
    obtain ⟨t, hturn', ht⟩ := turn_map_next h m runId' hst hturn
    refine ⟨φ place, p, t, hturn', ?_⟩
    dsimp only [Stand.map, Stand.bare]
    rw [bare_emit, bare_emit, ht]
  rw [Session.now_eq_of_bare hst] at htrail
  obtain ⟨st', htrail', hst'⟩ := htrail.simulate hturns hbegun
  refine ⟨st', ⟨φ place, ?_, htrail'⟩, hst'⟩
  show op.preflight b = _
  rw [hpreflight, hplace]
  rfl

/-- **A run in another alignment and under another medium is the same run:** it hands over the same
steps, as its own, and reports the same. -/
theorem Runs.mapUnder (h : a.Embeds b φ) (m : Option (Medium ν)) (runId' : RunId)
    (hpreflight : op.preflight b = φ <$> op.preflight a) (hst : s.bare = t.bare)
    {x : Report × Session σ μ} (hruns : op.Runs a order runId s steps x) :
    ∃ x', (op.withMedium m).Runs b order runId' t (steps.map (·.ofRun runId')) x' ∧
      x.1.Agrees x'.1 := by
  have hnow := Session.now_eq_of_bare hst
  have hhalted {steps : List Step} {st : Stand σ μ a} {fault : Fault} {p : Progress}
      {s' : Session σ μ} (reach : op.Reaches a order runId s steps st)
      (hturn : op.turn a ⟨runId, order, s.now⟩ st = .halted fault p s') :
      ∃ x', (op.withMedium m).Runs b order runId' t (steps.map (·.ofRun runId')) x' ∧
        (conclude ⟨runId, order, s.now⟩ (.error fault, p, s')).1.Agrees x'.1 := by
    obtain ⟨st', hreach', hst'⟩ := reach.map h m runId' hpreflight hst
    obtain ⟨t', hturn', ht'⟩ := turn_map_halted h m runId' hst' hturn
    have hended := (Session.now_eq_of_bare ht').symm
    refine ⟨_, hreach'.runs_halted (hnow ▸ hturn'), conclude_agrees hnow hended _ _⟩
  cases hruns with
  | refused preflight =>
    refine ⟨_, .refused ?_, conclude_agrees hnow hnow _ _⟩
    show op.preflight b = _
    rw [hpreflight, preflight]
    rfl
  | stopped reach check => exact hhalted reach (turn_of_checkpoint check)
  | failed reach check visit => exact hhalted reach (turn_of_visit check visit)
  | @arrived steps st step output p s' reach turn =>
    obtain ⟨st', hreach', hst'⟩ := reach.map h m runId' hpreflight hst
    obtain ⟨t', hturn', ht'⟩ := turn_map_next h m runId' hst' turn
    have hended : (op.emit step s').now = ((op.withMedium m).emit (step.ofRun runId') t').now :=
      Session.now_eq_of_bare (by rw [bare_emit, bare_emit, ht'])
    rw [List.map_append, List.map_singleton]
    exact ⟨_, .arrived hreach' (hnow ▸ hturn'), conclude_agrees hnow hended _ _⟩

end

/-- A run in another alignment, under the same medium. -/
theorem Runs.map (h : a.Embeds b φ) (runId' : RunId)
    (hpreflight : op.preflight b = φ <$> op.preflight a) (hst : s.bare = t.bare)
    {x : Report × Session σ μ} (hruns : op.Runs a order runId s steps x) :
    ∃ x', op.Runs b order runId' t (steps.map (·.ofRun runId')) x' ∧ x.1.Agrees x'.1 :=
  hruns.mapUnder h op.medium runId' hpreflight hst

/-- What a run reports does not depend on its identifier. -/
theorem report_agrees (op : Operator σ μ) (a : Alignment) (order : Order) (runId runId' : RunId)
    (s : Session σ μ) : (op.run a order runId s).1.Agrees (op.run a order runId' s).1 := by
  obtain ⟨steps, hruns⟩ := op.exists_runs a order runId s
  have hpreflight : op.preflight a = id <$> op.preflight a := (id_map _).symm
  obtain ⟨x, hruns', hagrees⟩ := hruns.map (Alignment.Embeds.refl a) runId' hpreflight rfl
  rw [← hruns'.eq_run]
  exact hagrees

/-- **The order of declaration and unused nodes carry no meaning.**  Of two alignments that
validation accepts, when all nodes of one are nodes of the other, wherever they stand there, each
run on the one goes as on the other and hands over the same steps; and validation accepts an
alignment in every order of its nodes or in none. -/
theorem declaration_irrelevant (op : Operator σ μ) (a : Alignment) :
    (∀ (b : Alignment) (order : Order) (runId runId' : RunId) (s : Session σ μ),
      a.validate op.foundry = .ok () → b.validate op.foundry = .ok () →
      (∀ n ∈ a.operations, n ∈ b.operations) →
        let r := (op.run a order runId s).1
        let r' := (op.run b order runId' s).1
        let steps := (op.transcribed.run a order runId (s.keeping #[])).2.kept.toList
        let steps' := (op.transcribed.run b order runId' (s.keeping #[])).2.kept.toList
        r'.outcome = r.outcome ∧ r'.registers = r.registers ∧ r'.visited = r.visited ∧
          r'.steps = r.steps ∧ r'.elapsed = r.elapsed ∧ steps' = steps.map (·.ofRun runId')) ∧
    ∀ operations, operations.Perm a.operations →
      ((Alignment.mk operations).validate op.foundry = .ok () ↔
        a.validate op.foundry = .ok ()) := by
  refine ⟨fun b order runId runId' s ha hb hwithin => ?_, fun operations hperm =>
    Alignment.validate_perm hperm op.foundry⟩
  obtain ⟨φ, hφ⟩ := Alignment.exists_embeds (Alignment.sound_of_validate ha)
    (Alignment.sound_of_validate hb) hwithin
  have hreport : (op.run a order runId s).1.Agrees (op.run b order runId' s).1 := by
    obtain ⟨steps, hruns⟩ := op.exists_runs a order runId s
    obtain ⟨x, hruns', hagrees⟩ := hruns.map hφ runId' (preflight_map hφ op ha hb) rfl
    rw [← hruns'.eq_run]
    exact hagrees
  obtain ⟨steps, hruns⟩ := op.transcribed.exists_runs a order runId (s.keeping #[])
  obtain ⟨x, hruns', -⟩ := hruns.map hφ runId' (preflight_map hφ op.transcribed ha hb) rfl
  dsimp only
  rw [hruns.kept_transcript, ← hruns'.eq_run, hruns'.kept_transcript]
  exact ⟨hreport.outcome.symm, hreport.registers.symm, hreport.visited.symm, hreport.steps.symm,
    hreport.elapsed.symm, rfl⟩

/-! ### A turnstile -/

/-- A processor that waits a while and gives back what it was given. -/
def idler : Processor Unit where
  name := "idle"
  description := ""
  input := ∅
  output := ∅
  process input := .pause 20 (.ok input)
  named := by rfl

/-- A node that goes on at itself, and an egress that is never reached. -/
def turnstile : Alignment where
  operations := [
    .ingress { next := "turn", promptAddr := "order" },
    .process { name := "turn", apparatus := "idle", next := "turn" },
    .egress { name := "end" }]

/-- The same nodes in another order, among one that is not used. -/
def turnstileAmongOthers : Alignment where
  operations := [
    .egress { name := "side door" },
    .process { name := "turn", apparatus := "idle", next := "turn" },
    .egress { name := "end" },
    .ingress { next := "turn", promptAddr := "order" }]

/-- An operator with one apparatus. -/
def idling : Operator Unit Unit where
  foundry := ⟨(∅ : Named (Apparatus Unit)).insert "idle" (.processor idler), by
    intro e he
    obtain rfl | he := Named.mem_place he
    · rfl
    · cases he⟩
  limits := { maxSteps := 10 }

/-- A run on the turnstile ends as it does among other nodes, at the limit on steps. -/
theorem declaration_irrelevant_turnstile :
    turnstile.validate idling.foundry = .ok () ∧
      turnstileAmongOthers.validate idling.foundry = .ok () ∧
      (∀ n ∈ turnstile.operations, n ∈ turnstileAmongOthers.operations) ∧
      (idling.run turnstile ⟨"go", []⟩ (.ofNat 1) { store := (), kept := () }).1.steps = 10 ∧
      (idling.run turnstileAmongOthers ⟨"go", []⟩ (.ofNat 2) { store := (), kept := () }).1.outcome =
        (idling.run turnstile ⟨"go", []⟩ (.ofNat 1) { store := (), kept := () }).1.outcome :=
  ⟨by rfl, by rfl, by decide, by decide +kernel,
    ((declaration_irrelevant idling turnstile).1 turnstileAmongOthers ⟨"go", []⟩ (.ofNat 1)
      (.ofNat 2) { store := (), kept := () } (by rfl) (by rfl) (by decide)).1⟩

end Operator
end ApparatusGraph
