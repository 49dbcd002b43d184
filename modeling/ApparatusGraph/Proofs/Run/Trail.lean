/-
# The trail of a run

A run is a trail of turns that go on and one turn that does not.  `turn_completed` and
`turn_halted` say all that a turn can do.  `Operator.Trail` joins turns that go on and
carries the steps that were handed to the medium on the way.

What every run keeps is proved by induction along the trail: it holds at the entry, and
a turn that goes on keeps it.  What a run ends in is read off its last turn
(`Operator.exists_runs`).  A run passes through every stand of its trail
(`Operator.Reaches.run_eq`), so what happens at a stand decides the run.
-/

import ApparatusGraph.Proofs.Run.Visit

namespace ApparatusGraph

/-- A member of a list with one more at the end is a member of the list or the one at the end. -/
theorem getElem?_append_singleton {α : Type} {l : List α} {x y : α} {i : Nat}
    (h : (l ++ [x])[i]? = some y) : i < l.length ∧ l[i]? = some y ∨ i = l.length ∧ y = x := by
  rcases Nat.lt_or_ge i l.length with hlt | hge
  · rw [List.getElem?_append_left hlt] at h
    exact .inl ⟨hlt, h⟩
  · rw [List.getElem?_append_right hge, List.getElem?_singleton] at h
    split at h
    · cases h
      exact .inr ⟨by omega, rfl⟩
    · cases h

namespace Operator

variable {σ μ : Type} {op : Operator σ μ} {a : Alignment} {e : Errand}

/-! ## Turns -/

/-- A run is stopped between two nodes because the token is set, or else because the budget is
overrun. -/
theorem interruption_eq_some {started steps : Nat} {s : Session σ μ} {fault : Fault}
    (h : op.interruption? started steps s = some fault) :
    s.cancelled = true ∧ fault = .cancelled steps ∨
      op.overrun started s.now = true ∧ fault = op.timeoutFault started s.now := by
  unfold interruption? at h
  split at h
  · rename_i hset
    exact .inl ⟨hset, (Option.some.inj h).symm⟩
  · split at h
    · rename_i hoverrun
      exact .inr ⟨hoverrun, (Option.some.inj h).symm⟩
    · cases h

/-- Between two nodes a run goes on only while the token is not set and the budget is not
overrun. -/
theorem interruption_eq_none {started steps : Nat} {s : Session σ μ}
    (h : op.interruption? started steps s = none) :
    s.cancelled = false ∧ op.overrun started s.now = false := by
  unfold interruption? at h
  split at h
  · cases h
  · rename_i hunset
    split at h
    · cases h
    · rename_i hin
      exact ⟨Bool.eq_false_iff.2 hunset, Bool.eq_false_iff.2 hin⟩

/-- A check that refuses a visit has met an interruption, or else the limit on steps. -/
theorem checkpoint_refuses {started : Nat} {n : Node} {p : Progress} {s : Session σ μ}
    {fault : Fault} (h : op.checkpoint started n p s = .error fault) :
    op.interruption? started p.steps.toNat s = some fault ∨
      op.interruption? started p.steps.toNat s = none ∧ op.limits.maxSteps ≤ p.steps ∧
        fault = .stepLimitExceeded op.limits.maxSteps.toNat n.label := by
  unfold checkpoint at h
  split at h
  · rename_i hinterrupted
    cases h
    exact .inl hinterrupted
  · rename_i hnone
    split at h
    · rename_i hlimit
      cases h
      exact .inr ⟨hnone, hlimit, rfl⟩
    · cases h

/-- A check refuses a visit because of the token, of the budget, or of the number of steps. -/
theorem checkpoint_error {started : Nat} {n : Node} {p : Progress} {s : Session σ μ} {fault : Fault}
    (h : op.checkpoint started n p s = .error fault) :
    fault = .cancelled p.steps.toNat ∨ fault = op.timeoutFault started s.now ∨
      op.limits.maxSteps ≤ p.steps ∧
        fault = .stepLimitExceeded op.limits.maxSteps.toNat n.label := by
  obtain hinterrupted | ⟨-, hlimit⟩ := checkpoint_refuses h
  · obtain ⟨-, hcancelled⟩ | ⟨-, htimeout⟩ := interruption_eq_some hinterrupted
    · exact .inl hcancelled
    · exact .inr (.inl htimeout)
  · exact .inr (.inr hlimit)

/-- A turn that ends a run was stopped by a check, or by a visit that failed. -/
theorem turn_halted {st : Stand σ μ a} {fault : Fault} {p : Progress} {s : Session σ μ}
    (h : op.turn a e st = .halted fault p s) :
    (op.checkpoint e.started (a.node st.place) st.progress st.session = .error fault ∧
        p = st.progress ∧ s = st.session) ∨
      ∃ admitted registers,
        op.checkpoint e.started (a.node st.place) st.progress st.session = .ok admitted ∧
          op.Visits a e admitted (a.node st.place) st.session (.error fault) registers s ∧
          p = { admitted with registers } := by
  unfold turn at h
  dsimp only at h
  split at h
  · rename_i hcheck
    cases h
    exact .inl ⟨hcheck, rfl, rfl⟩
  · rename_i admitted hcheck
    have hvisit := op.visits_visit a e admitted (a.node st.place) st.session
    split at h <;> rename_i heq <;> rw [heq] at hvisit <;> cases h
    exact .inr ⟨admitted, _, hcheck, hvisit, rfl⟩

/-- A check that refuses the visit ends the run. -/
theorem turn_of_checkpoint {st : Stand σ μ a} {fault : Fault}
    (h : op.checkpoint e.started (a.node st.place) st.progress st.session = .error fault) :
    op.turn a e st = .halted fault st.progress st.session := by
  unfold turn
  dsimp only
  rw [h]

/-- A visit that fails ends the run. -/
theorem turn_of_visit {st : Stand σ μ a} {fault : Fault} {p : Progress} {r : Registers}
    {s : Session σ μ}
    (hcheck : op.checkpoint e.started (a.node st.place) st.progress st.session = .ok p)
    (hvisit : op.Visits a e p (a.node st.place) st.session (.error fault) r s) :
    op.turn a e st = .halted fault { p with registers := r } s := by
  unfold turn
  dsimp only
  rw [hcheck]
  dsimp only
  rw [hvisit.eq_visit]

/-- A turn that goes on was let through by the checks and has made a complete visit. -/
theorem turn_completed {st : Stand σ μ a} {step : Step} {onward : Onward a} {p : Progress}
    {s : Session σ μ} (h : op.turn a e st = .completed step onward p s) :
    ∃ admitted v registers s',
      op.checkpoint e.started (a.node st.place) st.progress st.session = .ok admitted ∧
        op.Visits a e admitted (a.node st.place) st.session (.ok v) registers s' ∧
        step = stepOf e admitted.steps st.session.now s'.now (a.node st.place) v ∧
        onward = v.onward ∧ p = admitted.past (a.node st.place) registers ∧
        s = s'.say (.transition admitted.steps.toNat (a.node st.place).waypoint v.branch) := by
  unfold turn at h
  dsimp only at h
  split at h
  · cases h
  · rename_i admitted hcheck
    have hvisit := op.visits_visit a e admitted (a.node st.place) st.session
    split at h <;> rename_i heq <;> rw [heq] at hvisit <;> cases h
    exact ⟨admitted, _, _, _, hcheck, hvisit, rfl, rfl, rfl, rfl⟩

/-- A visit that is admitted and completed is a turn that goes on. -/
theorem turn_of_complete {st : Stand σ μ a} {p : Progress} {v : Visit a} {r : Registers}
    {s : Session σ μ}
    (hcheck : op.checkpoint e.started (a.node st.place) st.progress st.session = .ok p)
    (hvisit : op.Visits a e p (a.node st.place) st.session (.ok v) r s) :
    op.turn a e st =
      .completed (stepOf e p.steps st.session.now s.now (a.node st.place) v) v.onward
        (p.past (a.node st.place) r)
        (s.say (.transition p.steps.toNat (a.node st.place).waypoint v.branch)) := by
  unfold turn
  dsimp only
  rw [hcheck]
  dsimp only
  rw [hvisit.eq_visit]

/-- A turn that completes a visit has counted it, and was below the limit. -/
theorem turn_completed_steps {st : Stand σ μ a} {step : Step} {onward : Onward a} {p : Progress}
    {s : Session σ μ} (h : op.turn a e st = .completed step onward p s) :
    st.progress.steps < op.limits.maxSteps ∧ p.steps.toNat = st.progress.steps.toNat + 1 := by
  obtain ⟨admitted, v, registers, s', hcheck, -, -, -, rfl, -⟩ := turn_completed h
  obtain ⟨-, hlt, rfl⟩ := checkpoint_ok hcheck
  exact ⟨hlt, toNat_steps_succ hlt⟩

/-- The step of a complete visit names the node that was visited. -/
theorem turn_completed_node {st : Stand σ μ a} {step : Step} {onward : Onward a} {p : Progress}
    {s : Session σ μ} (h : op.turn a e st = .completed step onward p s) :
    step.node = (a.node st.place).waypoint := by
  obtain ⟨admitted, v, registers, s', -, -, rfl, -⟩ := turn_completed h
  rfl

/-- A turn that goes on has taken an edge of its node. -/
theorem turn_completed_leads (hsound : a.Sound op.foundry) {st : Stand σ μ a} {step : Step}
    {place : Fin a.size} {p : Progress} {s : Session σ μ}
    (h : op.turn a e st = .completed step (.next place) p s) :
    ∃ target, (a.node st.place).edge? step.branch = some target ∧
      a.resolve? target = some place := by
  obtain ⟨admitted, v, registers, s', -, hvisit, rfl, honward, -, -⟩ := turn_completed h
  exact (hvisit.completes hsound (a.node_mem st.place)).leads place honward.symm

/-- A turn that ends in an output was at an egress. -/
theorem turn_completed_ends (hsound : a.Sound op.foundry) {st : Stand σ μ a} {step : Step}
    {output : Output} {p : Progress} {s : Session σ μ}
    (h : op.turn a e st = .completed step (.done output) p s) :
    ∃ x, a.node st.place = .egress x := by
  obtain ⟨admitted, v, registers, s', -, hvisit, -, honward, -, -⟩ := turn_completed h
  exact (hvisit.completes hsound (a.node_mem st.place)).ends output honward.symm

/-- A turn that completes a visit notes the node that its step names. -/
theorem turn_completed_visited {st : Stand σ μ a} {step : Step} {onward : Onward a} {p : Progress}
    {s : Session σ μ} (h : op.turn a e st = .completed step onward p s) :
    p.visited.toList = st.progress.visited.toList ++ [step.node] := by
  obtain ⟨admitted, v, registers, s', hcheck, -, rfl, -, rfl, -⟩ := turn_completed h
  obtain ⟨-, -, rfl⟩ := checkpoint_ok hcheck
  exact Array.toList_push

/-! ## Walks -/

/-- A walk whose turn ends the run ends there. -/
theorem walk_halted {st : Stand σ μ a} {fault : Fault} {p : Progress} {s : Session σ μ}
    (h : op.turn a e st = .halted fault p s) : op.walk a e st = (.error fault, p, s) := by
  rw [walk]
  split <;> rename_i heq <;> rw [h] at heq <;> cases heq
  rfl

/-- A walk whose turn comes to an output ends there. -/
theorem walk_done {st : Stand σ μ a} {step : Step} {output : Output} {p : Progress}
    {s : Session σ μ} (h : op.turn a e st = .completed step (.done output) p s) :
    op.walk a e st = (.ok output, p, op.emit step s) := by
  rw [walk]
  split <;> rename_i heq <;> rw [h] at heq <;> cases heq
  rfl

/-- A walk goes on where its turn leads. -/
theorem walk_next {st : Stand σ μ a} {step : Step} {place : Fin a.size} {p : Progress}
    {s : Session σ μ} (h : op.turn a e st = .completed step (.next place) p s) :
    op.walk a e st = op.walk a e ⟨place, p, op.emit step s⟩ := by
  rw [walk]
  split <;> rename_i heq <;> rw [h] at heq <;> cases heq
  rfl

/-- Turns that go on, one after the other, and the steps they hand to the medium. -/
inductive Trail (op : Operator σ μ) (a : Alignment) (e : Errand) (st : Stand σ μ a) :
    List Step → Stand σ μ a → Prop where
  | entry : Trail op a e st [] st
  | onward {steps st' step place p s} (trail : Trail op a e st steps st')
      (turn : op.turn a e st' = .completed step (.next place) p s) :
      Trail op a e st (steps ++ [step]) ⟨place, p, op.emit step s⟩

namespace Trail

variable {st st' : Stand σ μ a} {steps : List Step}

/-- A walk goes on from every stand of its trail. -/
theorem walk_eq (h : op.Trail a e st steps st') : op.walk a e st = op.walk a e st' := by
  induction h with
  | entry => rfl
  | onward trail turn ih => exact ih.trans (walk_next turn)

/-- A trail may begin one turn earlier. -/
theorem cons {step : Step} {place : Fin a.size} {p : Progress} {s : Session σ μ}
    (turn : op.turn a e st = .completed step (.next place) p s)
    (h : op.Trail a e ⟨place, p, op.emit step s⟩ steps st') :
    op.Trail a e st (step :: steps) st' := by
  induction h with
  | entry => exact .onward .entry turn
  | onward trail later ih => exact .onward ih later

/-- A trail splits before each of its steps, at the stand whose turn makes the step. -/
theorem split (h : op.Trail a e st steps st') {k : Nat} (hk : k < steps.length) :
    ∃ mid step place p s, op.Trail a e st (steps.take k) mid ∧
      op.turn a e mid = .completed step (.next place) p s := by
  induction h with
  | entry => exact absurd hk (Nat.not_lt_zero k)
  | @onward steps st' step place p s trail turn ih =>
    rw [List.length_append, List.length_singleton] at hk
    rcases Nat.lt_or_ge k steps.length with hlt | hge
    · rw [List.take_append_of_le_length (Nat.le_of_lt hlt)]
      exact ih hlt
    · obtain rfl : k = steps.length := by omega
      rw [List.take_left]
      exact ⟨st', step, place, p, s, trail, turn⟩

/-- Each turn of a trail is counted. -/
theorem length_steps (h : op.Trail a e st steps st') :
    st'.progress.steps.toNat = st.progress.steps.toNat + steps.length := by
  induction h with
  | entry => rfl
  | @onward steps st' step place p s trail turn ih =>
    have hcount := (turn_completed_steps turn).2
    rw [List.length_append, List.length_singleton]
    show p.steps.toNat = _
    omega

/-- The steps of a trail name the nodes that were visited on it. -/
theorem visited (h : op.Trail a e st steps st') :
    st'.progress.visited.toList = st.progress.visited.toList ++ steps.map (·.node) := by
  induction h with
  | entry => exact (List.append_nil _).symm
  | onward trail turn ih =>
    rw [List.map_append, ← List.append_assoc, ← ih]
    exact turn_completed_visited turn

end Trail

/-- A turn that is the last of a run. -/
def Last (op : Operator σ μ) (a : Alignment) (e : Errand) (st : Stand σ μ a) : Prop :=
  ∀ step place p s, op.turn a e st ≠ .completed step (.next place) p s

/-- **Every walk comes to its last turn.** -/
theorem exists_trail_last (op : Operator σ μ) (a : Alignment) (e : Errand) (st : Stand σ μ a) :
    ∃ steps last, op.Trail a e st steps last ∧ op.Last a e last := by
  by_cases hlast : op.Last a e st
  · exact ⟨[], st, .entry, hlast⟩
  · simp only [Last, ne_eq, Classical.not_forall, Classical.not_not] at hlast
    obtain ⟨step, place, p, s, hturn⟩ := hlast
    have := turn_completed_lt hturn
    obtain ⟨steps, last, htrail, hlast⟩ := exists_trail_last op a e ⟨place, p, op.emit step s⟩
    exact ⟨step :: steps, last, htrail.cons hturn, hlast⟩
termination_by op.limits.maxSteps.toNat - st.progress.steps.toNat

/-- A walk keeps the nodes that were visited before it, in order. -/
theorem walk_visited_prefix (op : Operator σ μ) (a : Alignment) (e : Errand) (st : Stand σ μ a) :
    st.progress.visited.toList <+: (op.walk a e st).2.1.visited.toList := by
  obtain ⟨steps, last, htrail, hlast⟩ := op.exists_trail_last a e st
  have hsofar : st.progress.visited.toList <+: last.progress.visited.toList :=
    ⟨steps.map (·.node), htrail.visited.symm⟩
  rw [htrail.walk_eq]
  cases hturn : op.turn a e last with
  | halted fault p s =>
    rw [walk_halted hturn]
    obtain ⟨-, rfl, -⟩ | ⟨admitted, registers, hcheck, -, rfl⟩ := turn_halted hturn
    · exact hsofar
    · obtain ⟨-, -, rfl⟩ := checkpoint_ok hcheck
      exact hsofar
  | completed step onward p s =>
    cases onward with
    | next place => exact absurd hturn (hlast step place p s)
    | done output =>
      rw [walk_done hturn]
      exact hsofar.trans ⟨[step.node], (turn_completed_visited hturn).symm⟩

/-! ## Runs -/

variable {order : Order} {runId : RunId} {s : Session σ μ}

/-- A run that is not refused has valid limits and a valid alignment, and begins at the ingress. -/
theorem preflight_ok {place : Fin a.size} (h : op.preflight a = .ok place) :
    op.limits.validate = .ok () ∧ a.validate op.foundry = .ok () ∧ a.entry? = some place := by
  unfold preflight at h
  split at h
  · cases h
  · rename_i hlimits
    cases hvalid : a.validate op.foundry with
    | error fault =>
      rw [hvalid] at h
      cases h
    | ok passed =>
      rw [hvalid] at h
      cases hentry : a.entry? with
      | none =>
        rw [hentry] at h
        cases h
      | some first =>
        rw [hentry] at h
        cases h
        exact ⟨hlimits, rfl, rfl⟩

/-- A run that passes its checks goes over a sound alignment. -/
theorem sound_of_preflight {place : Fin a.size} (h : op.preflight a = .ok place) :
    a.Sound op.foundry :=
  Alignment.sound_of_validate (preflight_ok h).2.1

/-- A run comes to a stand after it has handed steps to the medium. -/
def Reaches (op : Operator σ μ) (a : Alignment) (order : Order) (runId : RunId) (s : Session σ μ)
    (steps : List Step) (st : Stand σ μ a) : Prop :=
  ∃ place, op.preflight a = .ok place ∧
    op.Trail a ⟨runId, order, s.now⟩ ⟨place, {}, s.say (.runOpened a.size)⟩ steps st

namespace Reaches

variable {steps : List Step} {st : Stand σ μ a}

/-- A run stands only on a sound alignment. -/
theorem sound (h : op.Reaches a order runId s steps st) : a.Sound op.foundry := by
  obtain ⟨place, hpreflight, -⟩ := h
  exact sound_of_preflight hpreflight

/-- The counter of a run is the number of its complete visits, between two nodes. -/
theorem length_steps (h : op.Reaches a order runId s steps st) :
    st.progress.steps.toNat = steps.length := by
  obtain ⟨place, -, htrail⟩ := h
  exact htrail.length_steps.trans (Nat.zero_add _)

/-- The steps of a run name the nodes that it visited. -/
theorem visited (h : op.Reaches a order runId s steps st) :
    st.progress.visited.toList = steps.map (·.node) := by
  obtain ⟨place, -, htrail⟩ := h
  exact htrail.visited

/-- A run stands at the entry, or where the edge leads that the node of its last step took. -/
theorem place (h : op.Reaches a order runId s steps st) :
    (steps = [] ∧ a.entry? = some st.place) ∨
      ∃ before step n target, steps = before ++ [step] ∧ a.nodeOf? step.node = some n ∧
        n.edge? step.branch = some target ∧ a.resolve? target = some st.place := by
  have hsound := h.sound
  obtain ⟨place, hpreflight, htrail⟩ := h
  cases htrail with
  | entry => exact .inl ⟨rfl, (preflight_ok hpreflight).2.2⟩
  | @onward before st step place p s trail turn =>
    obtain ⟨target, hedge, hresolve⟩ := turn_completed_leads hsound turn
    have hnode : a.nodeOf? step.node = some (a.node st.place) := by
      rw [turn_completed_node turn]
      exact hsound.nodeOf_node st.place
    exact .inr ⟨before, step, a.node st.place, target, rfl, hnode, hedge, hresolve⟩

/-- A turn that goes on takes a run to the next stand. -/
theorem onward (h : op.Reaches a order runId s steps st) {step : Step} {next : Fin a.size}
    {p : Progress} {s' : Session σ μ}
    (turn : op.turn a ⟨runId, order, s.now⟩ st = .completed step (.next next) p s') :
    op.Reaches a order runId s (steps ++ [step]) ⟨next, p, op.emit step s'⟩ := by
  obtain ⟨place, hpreflight, htrail⟩ := h
  exact ⟨place, hpreflight, htrail.onward turn⟩

/-- A run comes to a stand before each of its steps, and the visit there is admitted. -/
theorem take (h : op.Reaches a order runId s steps st) {k : Nat} (hk : k < steps.length) :
    ∃ mid p, op.Reaches a order runId s (steps.take k) mid ∧
      op.checkpoint s.now (a.node mid.place) mid.progress mid.session = .ok p := by
  obtain ⟨place, hpreflight, htrail⟩ := h
  obtain ⟨mid, step, next, p, s', hmid, hturn⟩ := htrail.split hk
  obtain ⟨admitted, v, registers, after, hcheck, -, -, -, -, -⟩ := turn_completed hturn
  exact ⟨mid, admitted, ⟨place, hpreflight, hmid⟩, hcheck⟩

/-- A run goes on from every stand it comes to. -/
theorem run_eq (h : op.Reaches a order runId s steps st) :
    op.run a order runId s =
      conclude ⟨runId, order, s.now⟩ (op.walk a ⟨runId, order, s.now⟩ st) := by
  obtain ⟨place, hpreflight, htrail⟩ := h
  rw [← htrail.walk_eq]
  unfold run travel
  rw [hpreflight]

/-- The nodes that were visited by then come first in what the run reports. -/
theorem visited_prefix (h : op.Reaches a order runId s steps st) :
    steps.map (·.node) <+: (op.run a order runId s).1.visited := by
  rw [← h.visited, h.run_eq]
  exact op.walk_visited_prefix a _ st

end Reaches

/-- How a run can go, with the steps that it hands to the medium: it is refused before its first
turn, a check stops it, a visit fails, or it arrives. -/
inductive Runs (op : Operator σ μ) (a : Alignment) (order : Order) (runId : RunId)
    (s : Session σ μ) : List Step → Report × Session σ μ → Prop where
  | refused {fault} (preflight : op.preflight a = .error fault) :
      Runs op a order runId s []
        (conclude ⟨runId, order, s.now⟩ (.error fault, {}, s.say (.runOpened a.size)))
  | stopped {steps st fault} (reach : op.Reaches a order runId s steps st)
      (check : op.checkpoint s.now (a.node st.place) st.progress st.session = .error fault) :
      Runs op a order runId s steps
        (conclude ⟨runId, order, s.now⟩ (.error fault, st.progress, st.session))
  | failed {steps st admitted fault registers s'} (reach : op.Reaches a order runId s steps st)
      (check : op.checkpoint s.now (a.node st.place) st.progress st.session = .ok admitted)
      (visit : op.Visits a ⟨runId, order, s.now⟩ admitted (a.node st.place) st.session
        (.error fault) registers s') :
      Runs op a order runId s steps
        (conclude ⟨runId, order, s.now⟩ (.error fault, { admitted with registers }, s'))
  | arrived {steps st step output p s'} (reach : op.Reaches a order runId s steps st)
      (turn : op.turn a ⟨runId, order, s.now⟩ st = .completed step (.done output) p s') :
      Runs op a order runId s (steps ++ [step])
        (conclude ⟨runId, order, s.now⟩ (.ok output, p, op.emit step s'))

/-- A run that comes to a turn that ends it is stopped there, or its visit fails. -/
theorem Reaches.runs_halted {steps : List Step} {st : Stand σ μ a} {fault : Fault} {p : Progress}
    {s' : Session σ μ} (h : op.Reaches a order runId s steps st)
    (hturn : op.turn a ⟨runId, order, s.now⟩ st = .halted fault p s') :
    op.Runs a order runId s steps (conclude ⟨runId, order, s.now⟩ (.error fault, p, s')) := by
  obtain ⟨hcheck, rfl, rfl⟩ | ⟨admitted, registers, hcheck, hvisit, rfl⟩ := turn_halted hturn
  · exact .stopped h hcheck
  · exact .failed h hcheck hvisit

/-- **A run goes one of the ways that are listed.** -/
theorem exists_runs (op : Operator σ μ) (a : Alignment) (order : Order) (runId : RunId)
    (s : Session σ μ) : ∃ steps, op.Runs a order runId s steps (op.run a order runId s) := by
  cases hpreflight : op.preflight a with
  | error fault =>
    refine ⟨[], ?_⟩
    unfold run travel
    rw [hpreflight]
    exact .refused hpreflight
  | ok place =>
    obtain ⟨steps, last, htrail, hlast⟩ := op.exists_trail_last a ⟨runId, order, s.now⟩
      ⟨place, {}, s.say (.runOpened a.size)⟩
    have hreach : op.Reaches a order runId s steps last := ⟨place, hpreflight, htrail⟩
    rw [hreach.run_eq]
    cases hturn : op.turn a ⟨runId, order, s.now⟩ last with
    | halted fault p s' =>
      rw [walk_halted hturn]
      exact ⟨steps, hreach.runs_halted hturn⟩
    | completed step onward p s' =>
      cases onward with
      | next next => exact absurd hturn (hlast step next p s')
      | done output =>
        rw [walk_done hturn]
        exact ⟨steps ++ [step], .arrived hreach hturn⟩

/-- A way to go is the way that the run goes. -/
theorem Runs.eq_run {steps : List Step} {x : Report × Session σ μ}
    (h : op.Runs a order runId s steps x) : x = op.run a order runId s := by
  cases h with
  | refused preflight =>
    unfold run travel
    rw [preflight]
  | stopped reach check => rw [reach.run_eq, walk_halted (turn_of_checkpoint check)]
  | failed reach check visit => rw [reach.run_eq, walk_halted (turn_of_visit check visit)]
  | arrived reach turn => rw [reach.run_eq, walk_done turn]

/-- A report lists the nodes of the steps that were handed to the medium. -/
theorem Runs.visited {steps : List Step} {x : Report × Session σ μ}
    (h : op.Runs a order runId s steps x) : x.1.visited = steps.map (·.node) := by
  cases h with
  | refused preflight => rfl
  | stopped reach check => exact reach.visited
  | failed reach check visit =>
    obtain ⟨-, -, rfl⟩ := checkpoint_ok check
    exact reach.visited
  | arrived reach turn =>
    rw [List.map_append, ← reach.visited]
    exact turn_completed_visited turn

end Operator
end ApparatusGraph
