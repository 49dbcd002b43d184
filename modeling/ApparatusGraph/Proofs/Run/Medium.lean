/-
# Runs and their media

A run does not depend on its medium: two operators that differ in the medium alone
report the same (`Operator.run_bare`).  A medium is handed the steps of a run in order
(`Operator.Runs.kept`), and a transcript keeps them (`Operator.Runs.kept_transcript`), so
what is proved of the steps along a trail holds of what a transcript keeps, and the
transcript of a run speaks for the same run under any medium.

The first is a simulation.  Two sessions are at the same point when they are equal up
to what the medium keeps and what was said (`Session.bare`), and each layer of a run,
from one visit to the whole walk, leads from such sessions to such sessions.
-/

import ApparatusGraph.Proofs.Run.Trail

namespace ApparatusGraph

variable {σ μ ν : Type}

/-- The session with something else kept. -/
def Session.keeping (s : Session σ μ) (kept : ν) : Session σ ν := { s with kept }

/-- What a medium keeps after it was handed steps in a row. -/
def Medium.keep (m : Medium μ) (steps : List Step) (kept : μ) : μ :=
  steps.foldl (fun kept step => (m.record step kept).kept) kept

/-- Steps in a row are kept after those before them. -/
theorem Medium.keep_append (m : Medium μ) (before after : List Step) (kept : μ) :
    m.keep (before ++ after) kept = m.keep after (m.keep before kept) :=
  List.foldl_append

/-- A transcript keeps every step, in order. -/
theorem Medium.keep_transcript (steps : List Step) (kept : Array Step) :
    (Medium.transcript.keep steps kept).toList = kept.toList ++ steps := by
  induction steps generalizing kept with
  | nil => exact (List.append_nil _).symm
  | cons step rest ih =>
    have hrest := ih (kept.push step)
    rw [Array.toList_push, List.append_assoc] at hrest
    exact hrest

/-- A stand without what the medium keeps and without what was said. -/
def Stand.bare {a : Alignment} (st : Stand σ μ a) : Stand σ Unit a :=
  ⟨st.place, st.progress, st.session.bare⟩

/-- What a turn comes to, without what the medium keeps and without what was said. -/
def Turn.bare {a : Alignment} : Turn σ μ a → Turn σ Unit a
  | .completed step onward p s => .completed step onward p s.bare
  | .halted fault p s => .halted fault p s.bare

namespace Turn

variable {a : Alignment}

/-- A turn that comes to a complete visit without what was said and kept comes to it with them. -/
theorem eq_completed_of_bare {turn : Turn σ μ a} {step : Step} {onward : Onward a} {p : Progress}
    {u : Session σ Unit} (h : turn.bare = .completed step onward p u) :
    ∃ s, turn = .completed step onward p s ∧ s.bare = u := by
  cases turn with
  | completed step' onward' p' s =>
    cases h
    exact ⟨s, rfl, rfl⟩
  | halted fault p' s => cases h

/-- A turn that ends a run without what was said and kept ends it with them. -/
theorem eq_halted_of_bare {turn : Turn σ μ a} {fault : Fault} {p : Progress} {u : Session σ Unit}
    (h : turn.bare = .halted fault p u) : ∃ s, turn = .halted fault p s ∧ s.bare = u := by
  cases turn with
  | completed step onward p' s => cases h
  | halted fault' p' s =>
    cases h
    exact ⟨s, rfl, rfl⟩

end Turn

namespace Operator

/-- The operator with another medium, or none. -/
def withMedium (op : Operator σ μ) (m : Option (Medium ν)) : Operator σ ν :=
  ⟨op.foundry, op.limits, m⟩

/-- The operator with a transcript for its medium. -/
def transcribed (op : Operator σ μ) : Operator σ (Array Step) :=
  ⟨op.foundry, op.limits, some .transcript⟩

/-- A step that is handed to the medium changes only what is said and kept. -/
@[simp]
theorem bare_emit (op : Operator σ μ) (step : Step) (s : Session σ μ) :
    (op.emit step s).bare = s.bare := by
  unfold emit
  split
  · rfl
  · dsimp only
    split
    · exact Session.bare_sayAll ..
    · rw [Session.bare_say]
      exact Session.bare_sayAll ..

section Simulation

variable (f : Foundry σ) (l : Limits) (m : Option (Medium μ)) (m' : Option (Medium ν))
  (a : Alignment) (e : Errand)

/-- The checks do not depend on what was said or kept. -/
theorem checkpoint_bare (n : Node) (p : Progress) {s : Session σ μ} {t : Session σ ν}
    (h : s.bare = t.bare) :
    (mk f l m).checkpoint e.started n p s = (mk f l m').checkpoint e.started n p t := by
  have hcancelled : s.cancelled = t.cancelled := congrArg Session.cancelled h
  have hnow := Session.now_eq_of_bare h
  unfold checkpoint interruption?
  rw [hcancelled, hnow]
  rfl

/-- A visit does not depend on the medium, nor on what was said or kept. -/
theorem visit_bare (p : Progress) (n : Node) {s : Session σ μ} {t : Session σ ν}
    (h : s.bare = t.bare) :
    ((mk f l m).visit a e p n s).1 = ((mk f l m').visit a e p n t).1 ∧
      ((mk f l m).visit a e p n s).2.1 = ((mk f l m').visit a e p n t).2.1 ∧
      ((mk f l m).visit a e p n s).2.2.bare = ((mk f l m').visit a e p n t).2.2.bare := by
  unfold visit
  rcases n.enter f a e.order p.registers with ⟨events, entered, r⟩
  dsimp only
  split
  · exact ⟨rfl, rfl, by simpa using h⟩
  · exact ⟨rfl, rfl, by simpa using h⟩
  · rename_i site input
    have hinvoked : ((s.sayAll events).invoke site.apparatus input).bare =
        ((t.sayAll events).invoke site.apparatus input).bare := by
      rw [Session.bare_invoke, Session.bare_invoke, Session.bare_sayAll, Session.bare_sayAll, h]
    obtain ⟨hended, hafter⟩ :=
      Call.await_bare ((mk f l m).deadline e.started) (site.call input) hinvoked
    have hdeadline : (mk f l m).deadline e.started = (mk f l m').deadline e.started := rfl
    rw [← hdeadline]
    split <;> rename_i hs <;> split <;> rename_i ht <;> rw [hs, ht] at hended hafter <;>
      cases hended
    · refine ⟨?_, rfl, hafter⟩
      rw [Session.now_eq_of_bare hafter]
      rfl
    · exact ⟨rfl, rfl, hafter⟩
    · refine ⟨rfl, rfl, ?_⟩
      rw [Session.bare_sayAll, Session.bare_sayAll]
      exact hafter

/-- A turn does not depend on the medium, nor on what was said or kept. -/
theorem turn_bare {st : Stand σ μ a} {st' : Stand σ ν a} (h : st.bare = st'.bare) :
    ((mk f l m).turn a e st).bare = ((mk f l m').turn a e st').bare := by
  obtain ⟨place, p, s⟩ := st
  obtain ⟨place', p', t⟩ := st'
  obtain ⟨rfl, rfl, hsession⟩ : place = place' ∧ p = p' ∧ s.bare = t.bare := Stand.mk.inj h
  have hbegan := Session.now_eq_of_bare hsession
  unfold turn
  dsimp only
  rw [checkpoint_bare f l m m' e (a.node place) p hsession]
  cases (mk f l m').checkpoint e.started (a.node place) p t with
  | error fault => exact congrArg (Turn.halted fault p) hsession
  | ok admitted =>
    have hvisit := visit_bare f l m m' a e admitted (a.node place) hsession
    revert hvisit
    dsimp only
    rcases (mk f l m).visit a e admitted (a.node place) s with ⟨result, r, s'⟩
    rcases (mk f l m').visit a e admitted (a.node place) t with ⟨result', r', t'⟩
    rintro ⟨rfl : result = result', rfl : r = r', hafter : s'.bare = t'.bare⟩
    have hended := Session.now_eq_of_bare hafter
    cases result with
    | error fault => exact congrArg (Turn.halted fault _) hafter
    | ok v =>
      dsimp only [Turn.bare, Session.bare_say]
      rw [hbegan, hended, hafter]

/-- A walk does not depend on the medium, nor on what was said or kept. -/
theorem walk_bare {st : Stand σ μ a} {st' : Stand σ ν a} (h : st.bare = st'.bare) :
    ((mk f l m).walk a e st).1 = ((mk f l m').walk a e st').1 ∧
      ((mk f l m).walk a e st).2.1 = ((mk f l m').walk a e st').2.1 ∧
      ((mk f l m).walk a e st).2.2.bare = ((mk f l m').walk a e st').2.2.bare := by
  have hturns := turn_bare f l m m' a e h
  cases hs : (mk f l m).turn a e st with
  | halted fault p s =>
    rw [hs] at hturns
    obtain ⟨t, ht, hafter⟩ := Turn.eq_halted_of_bare hturns.symm
    rw [walk_halted hs, walk_halted ht]
    exact ⟨rfl, rfl, hafter.symm⟩
  | completed step onward p s =>
    rw [hs] at hturns
    obtain ⟨t, ht, hafter⟩ := Turn.eq_completed_of_bare hturns.symm
    have hemitted : ((mk f l m).emit step s).bare = ((mk f l m').emit step t).bare := by
      rw [bare_emit, bare_emit, hafter]
    cases onward with
    | done output =>
      rw [walk_done hs, walk_done ht]
      exact ⟨rfl, rfl, hemitted⟩
    | next place =>
      have := turn_completed_lt hs
      rw [walk_next hs, walk_next ht]
      exact walk_bare (congrArg (Stand.mk place p) hemitted)
termination_by l.maxSteps.toNat - st.progress.steps.toNat

end Simulation

/-- **A run does not depend on its medium.** -/
theorem run_bare (f : Foundry σ) (l : Limits) (m : Option (Medium μ)) (m' : Option (Medium ν))
    (a : Alignment) (order : Order) (runId : RunId) {s : Session σ μ} {t : Session σ ν}
    (h : s.bare = t.bare) :
    ((mk f l m).run a order runId s).1 = ((mk f l m').run a order runId t).1 ∧
      ((mk f l m).run a order runId s).2.bare = ((mk f l m').run a order runId t).2.bare := by
  have hnow := Session.now_eq_of_bare h
  have hpreflight : (mk f l m).preflight a = (mk f l m').preflight a := rfl
  unfold run travel
  rw [hpreflight, hnow]
  cases (mk f l m').preflight a with
  | error fault =>
    dsimp only [conclude, Session.now_say, Session.bare_say]
    rw [hnow]
    exact ⟨rfl, h⟩
  | ok place =>
    have hstand : Stand.bare ⟨place, {}, s.say (.runOpened a.size)⟩ =
        Stand.bare ⟨place, {}, t.say (.runOpened a.size)⟩ := congrArg (Stand.mk place {}) h
    have hwalk := walk_bare f l m m' a ⟨runId, order, t.now⟩ hstand
    revert hwalk
    dsimp only
    rcases (mk f l m).walk a ⟨runId, order, t.now⟩ ⟨place, {}, s.say (.runOpened a.size)⟩ with
      ⟨outcome, p, s'⟩
    rcases (mk f l m').walk a ⟨runId, order, t.now⟩ ⟨place, {}, t.say (.runOpened a.size)⟩ with
      ⟨outcome', p', t'⟩
    rintro ⟨rfl : outcome = outcome', rfl : p = p', hafter : s'.bare = t'.bare⟩
    have hended := Session.now_eq_of_bare hafter
    dsimp only [conclude, Session.now_say, Session.bare_say]
    rw [hended]
    exact ⟨rfl, hafter⟩

/-- The report of a run does not depend on its medium. -/
theorem report_eq_of_bare (f : Foundry σ) (l : Limits) (m : Option (Medium μ))
    (m' : Option (Medium ν)) (a : Alignment) (order : Order) (runId : RunId) {s : Session σ μ}
    {t : Session σ ν} (h : s.bare = t.bare) :
    ((mk f l m).run a order runId s).1 = ((mk f l m').run a order runId t).1 :=
  (run_bare f l m m' a order runId h).1

/-- A run and its transcript report alike, and leave alike sessions. -/
theorem run_transcribed (op : Operator σ μ) (a : Alignment) (order : Order) (runId : RunId)
    (s : Session σ μ) :
    (op.run a order runId s).1 = (op.transcribed.run a order runId (s.keeping #[])).1 ∧
      (op.run a order runId s).2.bare =
        (op.transcribed.run a order runId (s.keeping #[])).2.bare :=
  run_bare op.foundry op.limits op.medium (some .transcript) a order runId rfl

/-! ## What a medium keeps -/

/-- A turn hands nothing to the medium by itself. -/
theorem turn_completed_kept {op : Operator σ μ} {a : Alignment} {e : Errand} {st : Stand σ μ a}
    {step : Step} {onward : Onward a} {p : Progress} {s : Session σ μ}
    (h : op.turn a e st = .completed step onward p s) : s.kept = st.session.kept := by
  obtain ⟨admitted, v, registers, s', -, hvisit, -, -, -, rfl⟩ := turn_completed h
  exact hvisit.kept

/-- What is kept after steps were handed over in a row; nothing changes without a medium. -/
def keep (op : Operator σ μ) (steps : List Step) (kept : μ) : μ :=
  match op.medium with
  | none => kept
  | some m => m.keep steps kept

section Keeping

variable {op : Operator σ μ} {a : Alignment} {order : Order} {runId : RunId} {s : Session σ μ}
  {steps : List Step}

/-- A step is recorded once, and a medium that fails keeps what it kept while it failed. -/
theorem kept_emit (step : Step) (s : Session σ μ) :
    (op.emit step s).kept = op.keep [step] s.kept := by
  unfold emit keep
  cases op.medium with
  | none => rfl
  | some m =>
    dsimp only
    split
    · exact Session.kept_sayAll _ _
    · rw [Session.kept_say]
      exact Session.kept_sayAll _ _

/-- Where no step is handed over, what is kept stays. -/
theorem keep_nil (kept : μ) : op.keep [] kept = kept := by
  unfold keep
  split
  · rfl
  · rfl

/-- Steps in a row are kept after those before them, or not at all. -/
theorem keep_append (before after : List Step) (kept : μ) :
    op.keep (before ++ after) kept = op.keep after (op.keep before kept) := by
  unfold keep
  split
  · rfl
  · exact Medium.keep_append ..

/-- Along a trail the medium is handed its steps. -/
theorem Trail.kept {e : Errand} {st st' : Stand σ μ a} (h : op.Trail a e st steps st') :
    st'.session.kept = op.keep steps st.session.kept := by
  induction h with
  | entry => exact (keep_nil _).symm
  | onward trail turn ih => rw [kept_emit, turn_completed_kept turn, ih, keep_append]

/-- By every stand the medium was handed the steps before it. -/
theorem Reaches.kept {st : Stand σ μ a} (h : op.Reaches a order runId s steps st) :
    st.session.kept = op.keep steps s.kept := by
  obtain ⟨place, -, htrail⟩ := h
  exact htrail.kept

/-- **A medium is handed the steps of the run in order,** each of them once. -/
theorem Runs.kept {x : Report × Session σ μ} (h : op.Runs a order runId s steps x) :
    x.2.kept = op.keep steps s.kept := by
  cases h with
  | refused preflight => exact (keep_nil _).symm
  | stopped reach check => exact reach.kept
  | failed reach check visit => exact visit.kept.trans reach.kept
  | arrived reach turn =>
    show (op.emit _ _).kept = _
    rw [kept_emit, turn_completed_kept turn, reach.kept, keep_append]

end Keeping

/-- A transcript keeps the steps of the run in order. -/
theorem Runs.kept_transcript {op : Operator σ μ} {a : Alignment} {order : Order} {runId : RunId}
    {s : Session σ (Array Step)} {steps : List Step} {x : Report × Session σ (Array Step)}
    (h : op.transcribed.Runs a order runId s steps x) :
    x.2.kept.toList = s.kept.toList ++ steps := by
  rw [h.kept]
  exact Medium.keep_transcript steps s.kept

end Operator
end ApparatusGraph
