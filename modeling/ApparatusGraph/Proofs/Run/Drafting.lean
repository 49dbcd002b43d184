/-
# Engines and operators

An engine drafts an alignment and has it run by an operator.  When there is nothing to
run, the engine says so and leaves everything as it is (`Engine.report_of_error`); else it
reports what its operator reports on the alignment (`Engine.report_of_ok`).

Both look at the alignment.  The engine does so before anybody looks at the limits, so the
second look of the operator never finds anything, and the two differ only in what they
name first when the limits and the alignment are both bad.
-/

import ApparatusGraph.Proofs.Run.Boundary
import ApparatusGraph.Proofs.Run.Tracing

namespace ApparatusGraph

variable {σ μ : Type}

namespace Operator

/-- What was said before a run changes neither its report nor what it does. -/
theorem run_of_bare (op : Operator σ μ) (a : Alignment) (order : Order) (runId : RunId)
    {s t : Session σ μ} (hst : s.bare = t.bare) (hkept : s.kept = t.kept) :
    (op.run a order runId s).1 = (op.run a order runId t).1 ∧
      (op.run a order runId s).2.bare = (op.run a order runId t).2.bare ∧
      (op.run a order runId s).2.kept = (op.run a order runId t).2.kept := by
  obtain ⟨hreport, hafter⟩ := run_bare op.foundry op.limits op.medium op.medium a order runId hst
  refine ⟨hreport, hafter, ?_⟩
  have hs := (op.runs_trace a order runId s).kept
  have ht := (op.runs_trace a order runId t).kept
  rw [hs, ht, op.trace_bare a order runId hst, hkept]

/-- How a run ended is the outcome that it reports. -/
theorem operate_eq (op : Operator σ μ) (a : Alignment) (order : Order) (runId : RunId)
    (s : Session σ μ) : (op.operate a order runId s).1 = (op.run a order runId s).1.outcome := rfl

/-- A run on an alignment that passed its check never finds fault with the alignment. -/
theorem run_kind {op : Operator σ μ} {a : Alignment} {order : Order} {runId : RunId}
    (hvalid : a.validate op.foundry = .ok ()) {s : Session σ μ} {fault : Fault}
    (hfault : (op.run a order runId s).1.outcome = .error fault) :
    fault.kind ∉ [.structural, .unknownApparatus] := by
  cases hlimits : op.limits.validate with
  | error cause =>
    rw [run_of_preflight_error (preflight_limits hlimits)] at hfault
    cases hfault
    simp [Fault.kind]
  | ok passed =>
    obtain ⟨steps, hruns⟩ := op.exists_runs a order runId s
    have hturn := hruns.kind ⟨hlimits, hvalid⟩ hfault
    intro hmem
    revert hturn hmem
    cases fault.kind <;> decide

end Operator

namespace Engine

variable {g : Engine σ μ} {order : Order} {runId : RunId} {s : Session σ μ} {a : Alignment}
  {fault : Fault}

/-! ## Drafts -/

/-- A blueprint that fails drafts nothing. -/
theorem draft?_of_failed {cause : Failure} (h : g.blueprint.draft g.foundry order = .error cause) :
    g.draft? order = .error (.blueprint cause) := by
  unfold draft?
  rw [h]

/-- A draft with a fault is refused for it. -/
theorem draft?_of_rejected (h : g.blueprint.draft g.foundry order = .ok a)
    (hfault : a.validate g.foundry = .error fault) : g.draft? order = .error fault := by
  unfold draft?
  rw [h]
  dsimp only
  rw [hfault]

/-- A draft without a fault is what is run. -/
theorem draft?_of_valid (h : g.blueprint.draft g.foundry order = .ok a)
    (hvalid : a.validate g.foundry = .ok ()) : g.draft? order = .ok a := by
  unfold draft?
  rw [h]
  dsimp only
  rw [hvalid]

/-! ## Reports -/

/-- Without an alignment to run, an engine only says why. -/
theorem report_of_error (h : g.draft? order = .error fault) :
    g.report order runId s = (.error fault, s.say (.draftingFailed fault)) := by
  unfold report draft
  rw [h]

/-- What was drafted is run by the operator of the engine. -/
theorem report_of_ok (h : g.draft? order = .ok a) :
    g.report order runId s =
      let (report, after) := g.operator.run a order runId
        (s.say (.drafted a.size a.referencedApparatus))
      (.ok report, after) := by
  unfold report draft
  rw [h]

/-- Without a draft the order ends in the fault. -/
theorem fulfilWith_of_error (h : g.draft? order = .error fault) :
    (g.fulfilWith order runId s).1 = .error fault := by
  unfold fulfilWith
  rw [report_of_error h]

/-- What an engine fulfils ends as its operator ends it. -/
theorem fulfilWith_of_ok (h : g.draft? order = .ok a) :
    (g.fulfilWith order runId s).1 = (g.operator.run a order runId s).1.outcome := by
  have hbare : (s.say (.drafted a.size a.referencedApparatus)).bare = s.bare := rfl
  unfold fulfilWith
  rw [report_of_ok h, ← (g.operator.run_of_bare a order runId hbare rfl).1]

/-- Unless the limits and the draft are both bad, an engine and its operator end alike. -/
theorem fulfilWith_eq_operate (hdraft : g.blueprint.draft g.foundry order = .ok a) (runId' : RunId)
    (h : g.limits.validate = .ok () ∨ a.validate g.foundry = .ok ()) :
    (g.fulfilWith order runId s).1 = (g.operator.operate a order runId' s).1 := by
  rw [Operator.operate_eq]
  cases hvalid : a.validate g.foundry with
  | ok passed =>
    rw [fulfilWith_of_ok (draft?_of_valid hdraft hvalid)]
    exact (g.operator.report_agrees a order runId runId' s).outcome
  | error fault =>
    obtain hlimits | hpasses := h
    · have hrefused : g.operator.preflight a = .error fault :=
        Operator.preflight_validate hlimits hvalid
      rw [fulfilWith_of_error (draft?_of_rejected hdraft hvalid),
        Operator.run_of_preflight_error hrefused]
      rfl
    · rw [hvalid] at hpasses
      cases hpasses

/-! ## The two ways in -/

/-- **An engine does what an operator does on what it drafts.**  A failed draft and a draft that
validation rejects end in just that fault, with nothing called and nothing recorded, whatever the
limits and the token are.  Any other draft is run as the operator runs it, and never ends in a
fault of the alignment.  So an engine that always drafts one alignment ends as the operator does on
it, unless the limits and the alignment are both bad: then the engine names the alignment, and the
operator names the limits. -/
theorem agrees_with_operator (g : Engine σ μ) (order : Order) (runId : RunId) (s : Session σ μ) :
    let (result, after) := g.report order runId s
    (∀ cause, g.blueprint.draft g.foundry order = .error cause →
      result = .error (.blueprint cause) ∧ after.invocations = s.invocations ∧
        after.kept = s.kept ∧ after = s.say (.draftingFailed (.blueprint cause))) ∧
    (∀ a fault, g.blueprint.draft g.foundry order = .ok a → a.validate g.foundry = .error fault →
      result = .error fault ∧ after.invocations = s.invocations ∧ after.kept = s.kept ∧
        after = s.say (.draftingFailed fault)) ∧
    (∀ a, g.blueprint.draft g.foundry order = .ok a → a.validate g.foundry = .ok () →
      let own := g.operator.run a order runId s
      result = .ok own.1 ∧ after.bare = own.2.bare ∧ after.kept = own.2.kept ∧
        (∀ runId', own.1.Agrees (g.operator.run a order runId' s).1) ∧
        ∀ fault, own.1.outcome = .error fault → fault.kind ∉ [.structural, .unknownApparatus]) ∧
    ∀ (a : Alignment) (runId' : RunId),
      let fulfilled := (Engine.fulfilWith { g with blueprint := .fixed a } order runId s).1
      let operated := (g.operator.operate a order runId' s).1
      (g.limits.validate = .ok () ∨ a.validate g.foundry = .ok () → fulfilled = operated) ∧
      ∀ cause fault, g.limits.validate = .error cause → a.validate g.foundry = .error fault →
        fulfilled = .error fault ∧ operated = .error (.limits cause) := by
  dsimp only
  refine ⟨fun cause hdraft => ?_, fun a fault hdraft hfault => ?_, fun a hdraft hvalid => ?_,
    fun a runId' => ?_⟩
  · rw [report_of_error (draft?_of_failed hdraft)]
    exact ⟨rfl, rfl, rfl, rfl⟩
  · rw [report_of_error (draft?_of_rejected hdraft hfault)]
    exact ⟨rfl, rfl, rfl, rfl⟩
  · have hbare : (s.say (.drafted a.size a.referencedApparatus)).bare = s.bare := rfl
    obtain ⟨hreport, hafter, hkept⟩ :=
      g.operator.run_of_bare a order runId hbare rfl
    rw [report_of_ok (draft?_of_valid hdraft hvalid)]
    exact ⟨congrArg Except.ok hreport, hafter, hkept,
      fun runId' => g.operator.report_agrees a order runId runId' s,
      fun fault => Operator.run_kind hvalid⟩
  · have hdraft : Blueprint.draft (.fixed a) g.foundry order = .ok a := rfl
    refine ⟨fulfilWith_eq_operate (g := { g with blueprint := .fixed a }) hdraft runId',
      fun cause fault hlimits hfault => ⟨?_, ?_⟩⟩
    · exact fulfilWith_of_error (draft?_of_rejected hdraft hfault)
    · rw [Operator.operate_eq, Operator.run_of_preflight_error (Operator.preflight_limits hlimits)]
      rfl

/-- Three engines: one that cannot draft, under bad limits and a token that is set; one that runs
the turnstile; and one whose limits and alignment are both bad. -/
theorem agrees_with_operator_turnstile :
    let order : Order := ⟨"go", []⟩
    let s : Session Unit Unit := { store := (), kept := () }
    let foundry := Operator.idling.foundry
    let stuck : Engine Unit Unit := ⟨foundry, .failing ⟨"no plan", []⟩, { maxSteps := 0 }, none⟩
    let able : Engine Unit Unit := ⟨foundry, .fixed Operator.turnstile, { maxSteps := 3 }, none⟩
    let idle : Engine Unit Unit := ⟨foundry, .fixed ⟨[]⟩, { maxSteps := 0 }, none⟩
    let own := able.operator.run Operator.turnstile order (.ofNat 1) s
    (stuck.report order (.ofNat 1) { s with cancelled := true }).1 =
        .error (.blueprint ⟨"no plan", []⟩) ∧
      (able.report order (.ofNat 1) s).1 = .ok own.1 ∧ own.1.steps = 3 ∧
      (able.fulfilWith order (.ofNat 1) s).1 = own.1.outcome ∧
      (idle.fulfilWith order (.ofNat 1) s).1 = .error (.structural .missingIngress) ∧
      (idle.operator.operate ⟨[]⟩ order (.ofNat 2) s).1 =
        .error (.limits (.invalid "max_steps must be at least 1")) := by
  intro order s foundry stuck able idle own
  have hstuck := agrees_with_operator stuck order (.ofNat 1) { s with cancelled := true }
  have hable := agrees_with_operator able order (.ofNat 1) s
  have hidle := (agrees_with_operator idle order (.ofNat 1) s).2.2.2 ⟨[]⟩ (.ofNat 2)
  have hvalid : Operator.turnstile.validate foundry = .ok () := by rfl
  exact ⟨(hstuck.1 _ rfl).1, (hable.2.2.1 Operator.turnstile rfl hvalid).1, by decide +kernel,
    (hable.2.2.2 Operator.turnstile (.ofNat 1)).1 (.inl rfl), hidle.2 _ _ rfl rfl⟩

end Engine
end ApparatusGraph
