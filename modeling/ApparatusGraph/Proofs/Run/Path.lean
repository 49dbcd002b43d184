/-
# The path of a run

A run goes along the edges of its alignment: it begins at the ingress, never comes back
there, and goes on at the node that the edge it took names.  Which edge a switch takes
is decided by the verdict of its switcher in that very visit, so one switch may take one
edge now and the other later.  An egress is where the path ends.

`Operator.Path` says this of steps, and `Path.snoc` that one more complete visit keeps
it.  A node that is called `ingress` has a name, so it is no obstacle: an edge leads to
nodes with names alone.
-/

import ApparatusGraph.Proofs.Run.Medium

namespace ApparatusGraph

variable {σ μ : Type}

/-- What is named by an edge is no ingress. -/
theorem Node.waypoint_ne_ingress {n : Node} {name : String} (h : n.name? = some name) :
    n.waypoint ≠ .ingress := by
  intro hwaypoint
  have hname := n.waypoint_name
  rw [hwaypoint, h] at hname
  cases hname

/-- A node that takes an edge is no egress. -/
theorem Node.waypoint_ne_egress {n : Node} {branch : Option Bool} {target : String}
    (h : n.edge? branch = some target) (name : String) : n.waypoint ≠ .egress name := by
  intro hwaypoint
  cases n with
  | egress x => cases h
  | ingress i => cases hwaypoint
  | process p => cases hwaypoint
  | switch sw => cases hwaypoint

/-! ## Verdicts -/

/-- A site that begins its visit has a call to wait for. -/
theorem Site.enter_ne_visited (site : Site σ) {a : Alignment} {r r' : Registers}
    {events : List Event} {v : Visit a} :
    site.enter a r ≠ (events, .ok (.visited v), r') := by
  unfold Site.enter
  cases r.gather site.node site.inputs site.contract with
  | error fault => rintro ⟨⟩
  | ok input => rintro ⟨⟩

/-- The visit of a site keeps what was fed to its call and what the call answered. -/
theorem Site.leave_visit {site : Site σ} {a : Alignment} {input : Record} {answer : Answer}
    {r r' : Registers} {events : List Event} {v : Visit a}
    (h : site.leave a input answer r = (events, .ok v, r')) :
    v.inputs = input ∧ v.outputs = answer.record ∧ v.branch = answer.branch := by
  unfold Site.leave at h
  dsimp only at h
  split at h
  · cases h
  · split at h
    · cases h
    · cases h
      exact ⟨rfl, rfl, rfl⟩

namespace Operator

variable {op : Operator σ μ} {a : Alignment} {order : Order} {runId : RunId} {s : Session σ μ}
  {steps : List Step}

/-- The visit of an ingress does not fail on a sound alignment. -/
theorem Visits.ne_ingress {e : Errand} {p : Progress} {n : Node} {fault : Fault} {r : Registers}
    {s' : Session σ μ} (hsound : a.Sound op.foundry) (hn : n ∈ a.operations)
    (h : op.Visits a e p n s (.error fault) r s') (i : Ingress) : n ≠ .ingress i := by
  rintro rfl
  obtain ⟨j, place, -, -, heq⟩ | ⟨site, hserves, -⟩ | ⟨x, hx, -⟩ :=
    hsound.enter hn e.order p.registers
  · cases h with
    | refused enter | interrupted enter | failed enter | left enter =>
      rw [heq] at enter
      cases enter
  · cases hserves.apparatus
  · cases hx

/-- The switcher of a switch answers with a verdict, and with the outputs of a step, when it is
asked at a stand with the inputs of the step. -/
def Decides (op : Operator σ μ) (started : Nat) (st : Stand σ μ a) (sw : Switch) (step : Step)
    (verdict : Bool) : Prop :=
  ∃ switcher said s', op.foundry.switcher? sw.apparatus = some switcher ∧
    (switcher.check step.inputs).await (op.deadline started)
      ((st.session.sayAll said).invoke sw.apparatus step.inputs) =
        (.answered (.ok (verdict, step.outputs)), s')

/-- The steps of a run go along the edges of its alignment, and its switches decide. -/
structure Path (op : Operator σ μ) (a : Alignment) (order : Order) (runId : RunId)
    (s : Session σ μ) (steps : List Step) : Prop where
  begins : ∀ i step, steps[i]? = some step → (step.node = .ingress ↔ i = 0)
  edges : ∀ i step next, steps[i]? = some step → steps[i + 1]? = some next →
    ∃ n target m, a.nodeOf? step.node = some n ∧ n.edge? step.branch = some target ∧
      a.find? target = some m ∧ next.node = m.waypoint
  verdicts : ∀ i step sw, steps[i]? = some step → a.nodeOf? step.node = some (.switch sw) →
    ∃ st verdict, op.Reaches a order runId s (steps.take i) st ∧
      op.Decides s.now st sw step verdict ∧ step.branch = some verdict

/-- A complete visit of a switch has taken the branch that its switcher decided on. -/
theorem turn_completed_decides (hsound : a.Sound op.foundry) {e : Errand} {st : Stand σ μ a}
    {step : Step} {onward : Onward a} {p : Progress} {s' : Session σ μ} {sw : Switch}
    (hsw : a.node st.place = .switch sw)
    (hturn : op.turn a e st = .completed step onward p s') :
    ∃ verdict, op.Decides e.started st sw step verdict ∧ step.branch = some verdict := by
  have hmem : .switch sw ∈ a.operations := hsw ▸ a.node_mem st.place
  obtain ⟨admitted, v, registers, after, -, hvisit, rfl, -, -, -⟩ := turn_completed hturn
  rw [hsw] at hvisit
  cases hvisit with
  | passed enter =>
    -- A switch has a site, so it waits for a call.
    obtain ⟨i, -, hi, -⟩ | ⟨site, -, heq⟩ | ⟨x, hx, -⟩ :=
      hsound.enter hmem e.order admitted.registers
    · cases hi
    · rw [heq] at enter
      exact absurd enter site.enter_ne_visited
    · cases hx
  | left enter await leave =>
    obtain ⟨switcher, hswitcher⟩ := hsound.switcher hmem
    obtain ⟨hinputs, houtputs, hbranch⟩ := Site.leave_visit leave
    have happaratus : sw.apparatus = _ :=
      Option.some.inj (hsound.enter_calls hmem enter).2.1.apparatus
    obtain ⟨p, hp, -⟩ | ⟨own, hown, hsite⟩ := Node.site_of_enter enter
    · cases hp
    cases hown
    obtain ⟨verdict, hanswer, hcheck⟩ := Switch.await_site hsite hswitcher await
    rw [← happaratus, ← hinputs, ← houtputs] at hcheck
    exact ⟨verdict, ⟨switcher, _, _, hswitcher, hcheck⟩, hbranch.trans hanswer⟩

/-! ## Paths -/

/-- A run that stands at its entry stands at the ingress; later it stands at a node with a name. -/
theorem Reaches.node {st : Stand σ μ a} (h : op.Reaches a order runId s steps st) :
    (steps = [] ∧ ∃ i, a.node st.place = .ingress i) ∨
      steps ≠ [] ∧ (a.node st.place).waypoint ≠ .ingress := by
  obtain ⟨hnil, hentry⟩ | ⟨before, last, n, target, rfl, -, -, hplace⟩ := h.place
  · exact .inl ⟨hnil, Alignment.node_of_entry hentry⟩
  · exact .inr ⟨List.append_ne_nil_of_right_ne_nil _ (List.cons_ne_nil _ _),
      Node.waypoint_ne_ingress (Alignment.name_of_resolve hplace)⟩

/-- A run that made no step is on a path. -/
theorem Path.nil : op.Path a order runId s [] :=
  ⟨fun _ _ h => (by cases h), fun _ _ _ h => (by cases h), fun _ _ _ h => (by cases h)⟩

/-- **One more complete visit keeps a path.** -/
theorem Path.snoc (h : op.Path a order runId s steps) {st : Stand σ μ a} {step : Step}
    {onward : Onward a} {p : Progress} {s' : Session σ μ}
    (hreach : op.Reaches a order runId s steps st)
    (hturn : op.turn a ⟨runId, order, s.now⟩ st = .completed step onward p s') :
    op.Path a order runId s (steps ++ [step]) := by
  have hnode := turn_completed_node hturn
  refine { begins := ?begins, edges := ?edges, verdicts := ?verdicts }
  case begins =>
    intro i other hother
    rcases getElem?_append_singleton hother with ⟨-, hother⟩ | ⟨rfl, rfl⟩
    · exact h.begins i other hother
    · rw [hnode]
      obtain ⟨rfl, i, hi⟩ | ⟨hne, hwaypoint⟩ := hreach.node
      · rw [hi]
        exact ⟨fun _ => rfl, fun _ => rfl⟩
      · exact ⟨fun h => absurd h hwaypoint, fun h => absurd (List.eq_nil_of_length_eq_zero h) hne⟩
  case edges =>
    intro i other next hother hnext
    rcases getElem?_append_singleton hnext with ⟨hlt, hnext⟩ | ⟨hlast, rfl⟩
    · rw [List.getElem?_append_left (by omega)] at hother
      exact h.edges i other next hother hnext
    · -- The step before the new one has led to the stand of the new one.
      rw [List.getElem?_append_left (by omega)] at hother
      obtain ⟨rfl, -⟩ | ⟨before, last, n, target, rfl, hn, hedge, hplace⟩ := hreach.place
      · cases hlast
      · rw [List.length_append, List.length_singleton] at hlast
        obtain rfl : i = before.length := by omega
        rw [List.getElem?_concat_length] at hother
        cases hother
        exact ⟨n, target, a.node st.place, hn, hedge, hreach.sound.find_node hplace, hnode⟩
  case verdicts =>
    intro i other sw hother hsw
    rcases getElem?_append_singleton hother with ⟨hlt, hother⟩ | ⟨rfl, rfl⟩
    · rw [List.take_append_of_le_length (Nat.le_of_lt hlt)]
      exact h.verdicts i other sw hother hsw
    · rw [List.take_left]
      rw [hnode, hreach.sound.nodeOf_node st.place] at hsw
      obtain ⟨verdict, hdecides, hbranch⟩ :=
        turn_completed_decides hreach.sound (Option.some.inj hsw) hturn
      exact ⟨st, verdict, hreach, hdecides, hbranch⟩

/-- Between two nodes, the steps of a run are a path that has not come to an egress. -/
theorem Reaches.path {st : Stand σ μ a} (h : op.Reaches a order runId s steps st) :
    op.Path a order runId s steps ∧ ∀ name, .egress name ∉ steps.map (·.node) := by
  obtain ⟨place, hpreflight, htrail⟩ := h
  induction htrail with
  | entry => exact ⟨.nil, fun _ => List.not_mem_nil⟩
  | @onward steps st step next p s' trail turn ih =>
    have hreach : op.Reaches a order runId s steps st := ⟨place, hpreflight, trail⟩
    refine ⟨ih.1.snoc hreach turn, fun name hmem => ?_⟩
    rw [List.map_append, List.map_singleton, List.mem_append, List.mem_singleton] at hmem
    obtain hmem | hlast := hmem
    · exact ih.2 name hmem
    · obtain ⟨target, hedge, -⟩ := turn_completed_leads hreach.sound turn
      rw [turn_completed_node turn] at hlast
      exact Node.waypoint_ne_egress hedge name hlast.symm

/-! ## Runs -/

/-- Each way that a run can go is a path. -/
theorem Runs.path {x : Report × Session σ μ} (h : op.Runs a order runId s steps x) :
    op.Path a order runId s steps := by
  cases h with
  | refused preflight => exact .nil
  | stopped reach check => exact reach.path.1
  | failed reach check visit => exact reach.path.1
  | arrived reach turn => exact reach.path.1.snoc reach turn

/-- The first visit that is admitted is that of the ingress, and it does not fail. -/
theorem Runs.ne_nil {x : Report × Session σ μ} (h : op.Runs a order runId s steps x)
    (hsteps : 0 < x.1.steps) : steps ≠ [] := by
  cases h with
  | refused preflight => exact absurd hsteps (Nat.lt_irrefl 0)
  | stopped reach check =>
    rintro rfl
    exact absurd reach.length_steps (Nat.ne_of_gt hsteps)
  | failed reach check visit =>
    rintro rfl
    obtain ⟨-, i, hi⟩ | ⟨hne, -⟩ := reach.node
    · exact visit.ne_ingress reach.sound (a.node_mem _) i hi
    · exact hne rfl
  | arrived reach turn => exact List.append_ne_nil_of_right_ne_nil _ (List.cons_ne_nil _ _)

/-- A run that ends with a fault has not visited an egress; one that ends with an output has visited
one at the end. -/
theorem Runs.egress {x : Report × Session σ μ} (h : op.Runs a order runId s steps x) :
    (∃ fault, x.1.outcome = .error fault ∧ ∀ name, .egress name ∉ steps.map (·.node)) ∨
      ∃ output before name, x.1.outcome = .ok output ∧
        steps.map (·.node) = before ++ [.egress name] ∧ ∀ name, .egress name ∉ before := by
  cases h with
  | refused preflight => exact .inl ⟨_, rfl, fun _ => List.not_mem_nil⟩
  | stopped reach check => exact .inl ⟨_, rfl, reach.path.2⟩
  | failed reach check visit => exact .inl ⟨_, rfl, reach.path.2⟩
  | @arrived before st step output p s' reach turn =>
    obtain ⟨x, hx⟩ := turn_completed_ends reach.sound turn
    refine .inr ⟨output, before.map (·.node), x.name, rfl, ?_, reach.path.2⟩
    rw [List.map_append, List.map_singleton, turn_completed_node turn, hx]
    rfl

/-- **What a run visits is a path of its alignment.**  It begins at the ingress as soon as a visit
was admitted, and never comes back there; each node goes on at the node that its edge names, a
switch by the verdict that its switcher gave in that visit; and an egress is where a run that
succeeds ends, and nowhere else.  The steps are those of a transcript of the run, whatever its own
medium is. -/
theorem visited_path (op : Operator σ μ) (a : Alignment) (order : Order) (runId : RunId)
    (s : Session σ μ) :
    let report := (op.run a order runId s).1
    let steps := (op.transcribed.run a order runId (s.keeping #[])).2.kept.toList
    report.visited = steps.map (·.node) ∧
    (0 < report.steps → report.visited[0]? = some .ingress) ∧
    (∀ i, report.visited[i]? = some .ingress → i = 0) ∧
    (∀ i step next, steps[i]? = some step → steps[i + 1]? = some next →
      ∃ n target m, a.nodeOf? step.node = some n ∧ n.edge? step.branch = some target ∧
        a.find? target = some m ∧ next.node = m.waypoint) ∧
    (∀ i step sw, steps[i]? = some step → a.nodeOf? step.node = some (.switch sw) →
      ∃ st verdict, op.transcribed.Reaches a order runId (s.keeping #[]) (steps.take i) st ∧
        op.transcribed.Decides s.now st sw step verdict ∧ step.branch = some verdict) ∧
    ((∃ name, .egress name ∈ report.visited) ↔ ∃ output, report.outcome = .ok output) ∧
    ∀ output, report.outcome = .ok output →
      ∃ before name, report.visited = before ++ [.egress name] ∧ ∀ name, .egress name ∉ before := by
  have hreport : (op.run a order runId s).1 =
      (op.transcribed.run a order runId (s.keeping #[])).1 :=
    report_eq_of_bare op.foundry op.limits op.medium (some .transcript) a order runId rfl
  obtain ⟨steps, hruns⟩ := op.transcribed.exists_runs a order runId (s.keeping #[])
  dsimp only
  rw [hreport, hruns.kept_transcript, hruns.visited]
  have hpath := hruns.path
  refine ⟨rfl, fun hsteps => ?_, fun i hi => ?_, hpath.edges, hpath.verdicts, ?_⟩
  · cases steps with
    | nil => exact absurd rfl (hruns.ne_nil hsteps)
    | cons first rest => exact congrArg some ((hpath.begins 0 first rfl).2 rfl)
  · rw [List.getElem?_map, Option.map_eq_some_iff] at hi
    obtain ⟨step, hstep, hnode⟩ := hi
    exact (hpath.begins i step hstep).1 hnode
  · obtain ⟨fault, houtcome, hnone⟩ | ⟨output, before, name, houtcome, hvisited, hnone⟩ :=
      hruns.egress
    · rw [houtcome]
      refine ⟨⟨?_, ?_⟩, ?_⟩
      · rintro ⟨name, hmem⟩
        exact absurd hmem (hnone name)
      · rintro ⟨output, houtput⟩
        cases houtput
      · rintro output houtput
        cases houtput
    · rw [houtcome]
      refine ⟨⟨fun _ => ⟨output, rfl⟩, fun _ => ⟨name, ?_⟩⟩, fun _ _ =>
        ⟨before, name, hvisited, hnone⟩⟩
      show _ ∈ steps.map (·.node)
      rw [hvisited]
      exact List.mem_append_right _ (List.mem_singleton_self _)

end Operator
end ApparatusGraph
