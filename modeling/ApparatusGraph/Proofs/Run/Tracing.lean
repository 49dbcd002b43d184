/-
# Traces

The trace of a run is the list of steps that it hands over (`Operator.trace`).  It is the
same for every medium, as is the report (`Operator.Runs.bare`), so a medium that fails, or
that keeps an account of its own, sees what any other would see.

Each step tells of one complete visit (`Operator.Tells`): the step at position `i` is that
of the turn which the run completes at the stand it comes to after `i` steps.  A turn that
is refused or fails makes no step, and is the last (`Operator.Runs.halts`).

Runs that are made one after the other and share a transcript append their traces to it
(`Shares`), whoever makes them, and whatever happens between two of them to the clock, the
token, the store and the log.  The clones of a transcript are one and the same transcript.
-/

import ApparatusGraph.Engine
import ApparatusGraph.Proofs.Run.Accounting
import ApparatusGraph.Proofs.Run.Declaration
import ApparatusGraph.Proofs.Run.Path

namespace ApparatusGraph

variable {σ μ ν : Type}

/-! ## Verdicts in steps -/

/-- What the call of a process answers carries no verdict. -/
theorem Process.await_site {f : Foundry σ} {p : Process} {site : Site σ} (hsite : p.site f = .ok site)
    {deadline : Option Nat} {input : Record} {s s' : Session σ μ} {answer : Answer}
    (h : (site.call input).await deadline s = (.answered (.ok answer), s')) :
    answer.branch = none := by
  unfold Process.site at hsite
  split at hsite
  · cases hsite
  · cases hsite
    rw [Call.await_map] at h
    obtain ⟨record, -, rfl⟩ := Awaited.map_eq_answered (Prod.mk.inj h).1
    rfl

namespace Operator

variable {op : Operator σ μ} {a : Alignment} {order : Order} {runId : RunId} {s : Session σ μ}
  {steps : List Step}

/-- A complete visit of a node that is no switch carries no verdict. -/
theorem Visits.branch_eq_none {e : Errand} {p : Progress} {n : Node} {v : Visit a} {r : Registers}
    {s' : Session σ μ} (hsound : a.Sound op.foundry) (hn : n ∈ a.operations)
    (hswitch : ∀ sw, n ≠ .switch sw) (h : op.Visits a e p n s (.ok v) r s') : v.branch = none := by
  cases h with
  | passed enter =>
    obtain ⟨i, place, -, -, heq⟩ | ⟨site, -, heq⟩ | ⟨x, -, heq⟩ := hsound.enter hn e.order p.registers
    · rw [heq] at enter
      cases enter
      rfl
    · rw [heq] at enter
      exact absurd enter site.enter_ne_visited
    · rw [heq] at enter
      cases hvisit : x.visit a p.registers with
      | error fault =>
        rw [hvisit] at enter
        cases enter
      | ok w =>
        rw [hvisit] at enter
        cases enter
        exact (Egress.visit_ok hvisit).2.2.1
  | left enter await leave =>
    obtain ⟨process, -, hsite⟩ | ⟨sw, hsw, -⟩ := Node.site_of_enter enter
    · rw [(Site.leave_visit leave).2.2]
      exact Process.await_site hsite await
    · exact absurd hsw (hswitch sw)

/-- A step carries the verdict that the switcher of its node gave in that visit, and none if its
node is no switch. -/
def Carries (op : Operator σ μ) (started : Nat) (st : Stand σ μ a) (step : Step) : Prop :=
  match a.node st.place with
  | .switch sw => ∃ verdict, op.Decides started st sw step verdict ∧ step.branch = some verdict
  | _ => step.branch = none

/-- The step of a complete visit carries what the visit was given and gave. -/
theorem turn_completed_carries (hsound : a.Sound op.foundry) {e : Errand} {st : Stand σ μ a}
    {step : Step} {onward : Onward a} {p : Progress} {s' : Session σ μ}
    (hturn : op.turn a e st = .completed step onward p s') : op.Carries e.started st step := by
  have hnone (hswitch : ∀ sw, a.node st.place ≠ .switch sw) : step.branch = none := by
    obtain ⟨admitted, v, registers, after, -, hvisit, rfl, -, -, -⟩ := turn_completed hturn
    exact hvisit.branch_eq_none hsound (a.node_mem st.place) hswitch
  unfold Carries
  split
  · rename_i sw hsw
    exact turn_completed_decides hsound hsw hturn
  · rename_i hswitch
    exact hnone hswitch

/-! ## What a step tells -/

/-- A step tells of the visit that a run completes after the steps before it. -/
structure Tells (op : Operator σ μ) (a : Alignment) (order : Order) (runId : RunId)
    (s : Session σ μ) (before : List Step) (step : Step) : Prop where
  index : step.index.toNat = before.length + 1
  run : step.runId = runId
  visit : ∃ st onward p s', op.Reaches a order runId s before st ∧
    op.turn a ⟨runId, order, s.now⟩ st = .completed step onward p s' ∧
    step.node = (a.node st.place).waypoint ∧ op.Carries s.now st step

/-- The step that a run makes at a stand tells of its visit there. -/
theorem Reaches.tells {st : Stand σ μ a} (h : op.Reaches a order runId s steps st) {step : Step}
    {onward : Onward a} {p : Progress} {s' : Session σ μ}
    (hturn : op.turn a ⟨runId, order, s.now⟩ st = .completed step onward p s') :
    op.Tells a order runId s steps step := by
  have hcarries := turn_completed_carries h.sound hturn
  have hnode := turn_completed_node hturn
  obtain ⟨admitted, v, registers, after, hcheck, -, heq, -, -, -⟩ := turn_completed hturn
  refine ⟨?_, ?_, st, onward, p, s', h, hturn, hnode, hcarries⟩
  · rw [heq]
    exact (h.counted hcheck).1
  · rw [heq]
    rfl

/-- Each step of a list tells of a visit that comes after those before it. -/
def AllTell (op : Operator σ μ) (a : Alignment) (order : Order) (runId : RunId) (s : Session σ μ)
    (steps : List Step) : Prop :=
  ∀ i step, steps[i]? = some step → op.Tells a order runId s (steps.take i) step

/-- Steps that tell of their visits and one more that does all tell of theirs. -/
theorem AllTell.snoc {step : Step} (h : op.AllTell a order runId s steps)
    (hstep : op.Tells a order runId s steps step) : op.AllTell a order runId s (steps ++ [step]) := by
  intro i other hother
  rcases getElem?_append_singleton hother with ⟨hlt, hother⟩ | ⟨rfl, rfl⟩
  · rw [List.take_append_of_le_length (Nat.le_of_lt hlt)]
    exact h i other hother
  · rw [List.take_left]
    exact hstep

/-- All steps of a run tell of their visits, wherever the run stands. -/
theorem Reaches.allTell {st : Stand σ μ a} (h : op.Reaches a order runId s steps st) :
    op.AllTell a order runId s steps := by
  obtain ⟨place, hpreflight, htrail⟩ := h
  induction htrail with
  | entry => exact fun _ _ hstep => by cases hstep
  | onward trail turn ih =>
    have hreach : op.Reaches a order runId s _ _ := ⟨place, hpreflight, trail⟩
    exact ih.snoc (hreach.tells turn)

/-- All steps of a run tell of their visits, however the run goes. -/
theorem Runs.allTell {x : Report × Session σ μ} (h : op.Runs a order runId s steps x) :
    op.AllTell a order runId s steps := by
  cases h with
  | refused preflight => exact fun _ _ hstep => by cases hstep
  | stopped reach check => exact reach.allTell
  | failed reach check visit => exact reach.allTell
  | arrived reach turn => exact reach.allTell.snoc (reach.tells turn)

/-- A run that ends with a fault was refused before its first turn, or a turn of it was, or the
visit of that turn failed; it has handed over no step for it. -/
theorem Runs.halts {x : Report × Session σ μ} (h : op.Runs a order runId s steps x) {fault : Fault}
    (hfault : x.1.outcome = .error fault) :
    (op.preflight a = .error fault ∧ steps = []) ∨
      ∃ st p s', op.Reaches a order runId s steps st ∧
        op.turn a ⟨runId, order, s.now⟩ st = .halted fault p s' := by
  cases h with
  | refused preflight =>
    cases hfault
    exact .inl ⟨preflight, rfl⟩
  | stopped reach check =>
    cases hfault
    exact .inr ⟨_, _, _, reach, turn_of_checkpoint check⟩
  | failed reach check visit =>
    cases hfault
    exact .inr ⟨_, _, _, reach, turn_of_visit check visit⟩
  | arrived reach turn => cases hfault

/-! ## Traces and media -/

/-- **A run hands over the same steps under another medium.** -/
theorem Runs.bare {x : Report × Session σ μ} (h : op.Runs a order runId s steps x)
    (m : Option (Medium ν)) {t : Session σ ν} (hst : s.bare = t.bare) :
    (op.withMedium m).Runs a order runId t steps ((op.withMedium m).run a order runId t) := by
  have hpreflight : op.preflight a = id <$> op.preflight a := (id_map _).symm
  obtain ⟨x', hruns, -⟩ := h.mapUnder (Alignment.Embeds.refl a) m runId hpreflight hst
  have hown : steps.map (·.ofRun runId) = steps := by
    refine (List.map_congr_left fun step hstep => ?_).trans (List.map_id steps)
    obtain ⟨i, hi⟩ := List.mem_iff_getElem?.1 hstep
    rw [← (h.allTell i step hi).run]
    rfl
  rwa [hown, hruns.eq_run] at hruns

/-- The steps that a run hands over: those that a transcript keeps of it. -/
def trace (op : Operator σ μ) (a : Alignment) (order : Order) (runId : RunId) (s : Session σ ν) :
    List Step :=
  (op.transcribed.run a order runId (s.keeping #[])).2.kept.toList

/-- The steps of a run are those that a transcript of it keeps. -/
theorem Runs.eq_trace {x : Report × Session σ μ} (h : op.Runs a order runId s steps x) :
    steps = op.trace a order runId s := by
  have hbare : s.bare = (s.keeping (#[] : Array Step)).bare := rfl
  have htranscribed : op.transcribed.Runs a order runId (s.keeping #[]) steps _ :=
    h.bare (some .transcript) hbare
  exact htranscribed.kept_transcript.symm

/-- A run goes through the steps of its trace. -/
theorem runs_trace (op : Operator σ μ) (a : Alignment) (order : Order) (runId : RunId)
    (s : Session σ μ) : op.Runs a order runId s (op.trace a order runId s) (op.run a order runId s) := by
  obtain ⟨steps, hruns⟩ := op.exists_runs a order runId s
  rwa [← hruns.eq_trace]

/-- What was said before a run and what its medium keeps do not change its trace. -/
theorem trace_bare {ρ : Type} (op : Operator σ μ) (a : Alignment) (order : Order) (runId : RunId)
    {s : Session σ ν} {t : Session σ ρ} (hst : s.bare = t.bare) :
    op.trace a order runId t = op.trace a order runId s := by
  have hkeeping : (s.keeping (#[] : Array Step)).bare = (t.keeping (#[] : Array Step)).bare := hst
  have hruns := op.transcribed.runs_trace a order runId (s.keeping #[])
  exact (hruns.bare (some .transcript) hkeeping).eq_trace.symm

/-- A run appends its trace to a transcript. -/
theorem kept_run_transcribed (op : Operator σ μ) (a : Alignment) (order : Order) (runId : RunId)
    (u : Session σ (Array Step)) :
    (op.transcribed.run a order runId u).2.kept.toList =
      u.kept.toList ++ op.trace a order runId u :=
  (op.transcribed.runs_trace a order runId u).kept_transcript

end Operator

/-! ## A shared transcript -/

namespace Engine

/-- The engine with a transcript for its medium. -/
def transcribed (g : Engine σ μ) : Engine σ (Array Step) :=
  ⟨g.foundry, g.blueprint, g.limits, some .transcript⟩

/-- The steps that an engine hands over: those of the run, if it drafts an alignment to run. -/
def trace (g : Engine σ μ) (order : Order) (runId : RunId) (s : Session σ ν) : List Step :=
  match g.draft? order with
  | .error _ => []
  | .ok a => g.operator.trace a order runId s

/-- An engine appends the trace of its run to a transcript. -/
theorem kept_report_transcribed (g : Engine σ μ) (order : Order) (runId : RunId)
    (u : Session σ (Array Step)) :
    (g.transcribed.report order runId u).2.kept.toList =
      u.kept.toList ++ g.trace order runId u := by
  have hdraft : g.transcribed.draft? order = g.draft? order := rfl
  unfold report draft trace
  rw [hdraft]
  cases g.draft? order with
  | error fault => exact (List.append_nil _).symm
  | ok a =>
    have hbare : u.bare = (u.say (.drafted a.size a.referencedApparatus)).bare := rfl
    dsimp only
    rw [← g.operator.trace_bare a order runId hbare]
    exact g.operator.kept_run_transcribed a order runId (u.say _)

end Engine

/-- Who is asked for a run, and in which way. -/
inductive Commission (σ μ : Type) where
  | run (op : Operator σ μ) (a : Alignment)
  | operate (op : Operator σ μ) (a : Alignment)
  | report (g : Engine σ μ)
  | fulfilWith (g : Engine σ μ)
  | fulfil (g : Engine σ μ)

namespace Commission

/-- The session after a run under a transcript. -/
def transcribe (c : Commission σ μ) (order : Order) (runId : RunId) (u : Session σ (Array Step)) :
    Session σ (Array Step) :=
  match c with
  | run op a => (op.transcribed.run a order runId u).2
  | operate op a => (op.transcribed.operate a order runId u).2
  | report g => (g.transcribed.report order runId u).2
  | fulfilWith g => (g.transcribed.fulfilWith order runId u).2
  | fulfil g => (g.transcribed.fulfil order runId u).2

/-- The steps that a run hands over. -/
def trace (c : Commission σ μ) (order : Order) (runId : RunId) (u : Session σ ν) : List Step :=
  match c with
  | run op a | operate op a => op.trace a order runId u
  | report g | fulfilWith g => g.trace order runId u
  | fulfil g => g.trace order runId u.withPrivateToken

/-- **Whoever makes a run, it appends its trace to a transcript.** -/
theorem kept_transcribe (c : Commission σ μ) (order : Order) (runId : RunId)
    (u : Session σ (Array Step)) :
    (c.transcribe order runId u).kept.toList = u.kept.toList ++ c.trace order runId u := by
  have hwith (g : Engine σ μ) (u : Session σ (Array Step)) :
      (g.transcribed.fulfilWith order runId u).2.kept.toList =
        u.kept.toList ++ g.trace order runId u := by
    rw [← g.kept_report_transcribed]
    unfold Engine.fulfilWith
    rcases g.transcribed.report order runId u with ⟨fault | report, after⟩
    · rfl
    · rfl
  cases c with
  | run op a => exact op.kept_run_transcribed a order runId u
  | operate op a => exact op.kept_run_transcribed a order runId u
  | report g => exact g.kept_report_transcribed order runId u
  | fulfilWith g => exact hwith g u
  | fulfil g => exact hwith g u.withPrivateToken

end Commission

/-- Runs that are made one after the other and share a transcript, with the trace of each.  Between
two of them anything may have happened but to the transcript. -/
inductive Shares (μ : Type) (s : Session σ (Array Step)) :
    List (List Step) → Session σ (Array Step) → Prop where
  | none : Shares μ s [] s
  | another {traces t u} (before : Shares μ s traces t) (between : u.kept = t.kept)
      (c : Commission σ μ) (order : Order) (runId : RunId) :
      Shares μ s (traces ++ [c.trace order runId u]) (c.transcribe order runId u)

/-- **A shared transcript holds the traces of all runs, one after the other.** -/
theorem Shares.kept {s t : Session σ (Array Step)} {traces : List (List Step)}
    (h : Shares μ s traces t) : t.kept.toList = s.kept.toList ++ traces.flatten := by
  induction h with
  | none => exact (List.append_nil _).symm
  | @another traces t u before between c order runId ih =>
    rw [c.kept_transcribe, between, ih, List.flatten_append, List.flatten_singleton,
      List.append_assoc]

namespace Operator

/-- **Tracing is exact and without influence.**  Under any medium, whether or not it fails, a run
reports what it reports without one, and its medium is handed the steps of the trace in order.  They
are one for each complete visit: the step at position `i` tells of the visit after `i` others.  The
visit that was refused or that failed, if there is one, comes after all of them.  And a transcript
that is shared by runs of operators and of engines holds their traces one after the other, after
what it held before. -/
theorem tracing_exact (op : Operator σ μ) :
    (∀ (m : Medium μ) (a : Alignment) (order : Order) (runId : RunId) (s : Session σ μ),
      let traced : Operator σ μ := { op with medium := some m }
      let (report, after) := traced.run a order runId s
      let steps := op.trace a order runId s
      report = (Operator.run { op with medium := none } a order runId s).1 ∧
      after.kept = m.keep steps s.kept ∧
      report.visited = steps.map (·.node) ∧
      (∀ i step, steps[i]? = some step →
        step.index.toNat = i + 1 ∧ report.visited[i]? = some step.node ∧
          step.runId = report.runId ∧ traced.Tells a order runId s (steps.take i) step) ∧
      ∀ fault, report.outcome = .error fault →
        (traced.preflight a = .error fault ∧ steps = []) ∨
          ∃ st p s', traced.Reaches a order runId s steps st ∧
            traced.turn a ⟨runId, order, s.now⟩ st = .halted fault p s') ∧
    ∀ (s t : Session σ (Array Step)) (traces : List (List Step)), Shares μ s traces t →
      t.kept.toList = s.kept.toList ++ traces.flatten := by
  refine ⟨fun m a order runId s => ?_, fun s t traces h => h.kept⟩
  have hruns : (mk op.foundry op.limits (some m)).Runs a order runId s (op.trace a order runId s)
      ((mk op.foundry op.limits (some m)).run a order runId s) :=
    (mk op.foundry op.limits (some m)).runs_trace a order runId s
  have hreport : ((mk op.foundry op.limits (some m)).run a order runId s).1 =
      ((mk op.foundry op.limits (none : Option (Medium μ))).run a order runId s).1 :=
    report_eq_of_bare op.foundry op.limits (some m) none a order runId rfl
  refine ⟨hreport, hruns.kept, hruns.visited, fun i step hstep => ?_, fun fault => hruns.halts⟩
  have htells := hruns.allTell i step hstep
  have hindex := htells.index
  rw [List.length_take_of_le (Nat.le_of_lt (List.getElem?_eq_some_iff.1 hstep).1)] at hindex
  refine ⟨hindex, ?_, htells.run, htells⟩
  have hnode : ((op.trace a order runId s).map (·.node))[i]? = some step.node := by
    rw [List.getElem?_map, hstep]
    rfl
  rwa [← hruns.visited] at hnode

/-- Ten steps of an operator under a medium that refuses them all, and then, in one transcript,
those ten and three of an engine. -/
theorem tracing_exact_turnstile :
    let order : Order := ⟨"go", []⟩
    let s : Session Unit (Array Step) := { store := (), kept := #[] }
    let operator := Commission.operate idling turnstile
    let engine : Commission Unit Unit :=
      .fulfil ⟨idling.foundry, .fixed turnstile, { maxSteps := 3 }, none⟩
    let steps := operator.trace order (.ofNat 1) s
    let between := operator.transcribe order (.ofNat 1) s
    let steps' := engine.trace order (.ofNat 2) between
    let after := engine.transcribe order (.ofNat 2) between
    let refused : Operator Unit Unit := { idling with medium := some (.refusing ⟨"disk full", []⟩) }
    steps.length = 10 ∧ steps'.length = 3 ∧
      (refused.run turnstile order (.ofNat 1) { store := (), kept := () }).1.visited =
        steps.map (·.node) ∧
      Shares Unit s [steps, steps'] after ∧ after.kept.toList = steps ++ steps' := by
  intro order s operator engine steps between steps' after refused
  have htrace : idling.trace turnstile order (.ofNat 1) { store := (), kept := () } = steps :=
    idling.trace_bare turnstile order (.ofNat 1) rfl
  have hreport := (tracing_exact idling).1 (.refusing ⟨"disk full", []⟩) turnstile order (.ofNat 1)
    { store := (), kept := () }
  have hshares : Shares Unit s [steps, steps'] after :=
    .another (.another .none rfl operator order (.ofNat 1)) rfl engine order (.ofNat 2)
  have hkept := (tracing_exact idling).2 s after [steps, steps'] hshares
  refine ⟨by decide +kernel, by decide +kernel, htrace ▸ hreport.2.2.1, hshares, ?_⟩
  rw [hkept, List.flatten_cons, List.flatten_singleton]
  exact List.nil_append _

end Operator
end ApparatusGraph
