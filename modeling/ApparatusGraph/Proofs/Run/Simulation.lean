/-
# Runs that keep in step

Two runs that differ in their alignment, their operator or their session are compared
turn by turn.  `R` relates the stands of one to the stands of the other and `g` says what
becomes of a step.  When each turn that goes on leads from related stands to related
stands, so does each trail (`Operator.Trail.simulate`); what the two runs end in is then
a matter of their last turns.

Two reports agree when they say the same of two runs, whichever runs they are
(`Report.Agrees`).
-/

import ApparatusGraph.Proofs.Run.Medium

namespace ApparatusGraph

variable {σ τ μ ν : Type}

/-- Two reports that say the same, each of its own run. -/
structure Report.Agrees (r r' : Report) : Prop where
  outcome : r.outcome = r'.outcome
  registers : r.registers = r'.registers
  visited : r.visited = r'.visited
  steps : r.steps = r'.steps
  elapsed : r.elapsed = r'.elapsed

namespace Report.Agrees

variable {r r' r'' : Report}

theorem symm (h : r.Agrees r') : r'.Agrees r :=
  ⟨h.outcome.symm, h.registers.symm, h.visited.symm, h.steps.symm, h.elapsed.symm⟩

theorem trans (h : r.Agrees r') (h' : r'.Agrees r'') : r.Agrees r'' :=
  ⟨h.outcome.trans h'.outcome, h.registers.trans h'.registers, h.visited.trans h'.visited,
    h.steps.trans h'.steps, h.elapsed.trans h'.elapsed⟩

end Report.Agrees

namespace Operator

/-- Runs that began at one time and end alike at one time report alike. -/
theorem conclude_agrees {e e' : Errand} {s : Session σ μ} {t : Session τ ν}
    (hstarted : e.started = e'.started) (hnow : s.now = t.now) (outcome : Except Fault Output)
    (p : Progress) : (conclude e (outcome, p, s)).1.Agrees (conclude e' (outcome, p, t)).1 := by
  refine ⟨rfl, rfl, rfl, rfl, ?_⟩
  show s.now - e.started = t.now - e'.started
  rw [hstarted, hnow]

/-- **Trails keep in step.**  When turns that go on lead from related stands to related stands, so
do trails, and their steps correspond one by one. -/
theorem Trail.simulate {op : Operator σ μ} {op' : Operator τ ν} {a b : Alignment} {e e' : Errand}
    {R : Stand σ μ a → Stand τ ν b → Prop} {g : Step → Step}
    (hturn : ∀ {st : Stand σ μ a} {st' : Stand τ ν b} {step place p s}, R st st' →
      op.turn a e st = .completed step (.next place) p s →
        ∃ place' p' s', op'.turn b e' st' = .completed (g step) (.next place') p' s' ∧
          R ⟨place, p, op.emit step s⟩ ⟨place', p', op'.emit (g step) s'⟩)
    {st last : Stand σ μ a} {st' : Stand τ ν b} {steps : List Step}
    (h : op.Trail a e st steps last) (hR : R st st') :
    ∃ last', op'.Trail b e' st' (steps.map g) last' ∧ R last last' := by
  induction h with
  | entry => exact ⟨st', .entry, hR⟩
  | onward trail turn ih =>
    obtain ⟨last', htrail', hR'⟩ := ih
    obtain ⟨place', p', s', hturn', hnext⟩ := hturn hR' turn
    refine ⟨_, ?_, hnext⟩
    rw [List.map_append, List.map_singleton]
    exact htrail'.onward hturn'

end Operator
end ApparatusGraph
