/-
# The boundary between validation and running

What `Operator.preflight` refuses has not begun: nothing was visited, written, recorded
or called.  What it accepts cannot fail for a reason that validation looks for:

| kind of fault | before the first turn | later |
| --- | --- | --- |
| `config` | the limits | never |
| `structural`, `unknownApparatus` | the alignment | never |
| `danglingReference`, `registry`, `blueprint` | never | never |
| the others | never | a check or a visit |

`Operator.validation_boundary` puts the two together.  The look-ups of a run are other
code than validation; that they agree is `Alignment.Sound`.
-/

import ApparatusGraph.Proofs.Run.Trail

namespace ApparatusGraph

variable {σ μ : Type}

namespace Alignment

/-- Validation refuses an alignment for its structure or for an apparatus that is missing. -/
theorem validate_error {a : Alignment} {f : Foundry σ} {fault : Fault}
    (h : a.validate f = .error fault) :
    (∃ cause, fault = .structural cause) ∨
      ∃ node apparatus, fault = .unknownApparatus node apparatus := by
  have hcall {node apparatus : String} {expected : ApparatusKind}
      (hfault : callFault? f node apparatus expected = some fault) :
      (∃ cause, fault = .structural cause) ∨
        ∃ node apparatus, fault = .unknownApparatus node apparatus := by
    unfold callFault? at hfault
    split at hfault
    · exact .inr ⟨_, _, (Option.some.inj hfault).symm⟩
    · split at hfault
      · cases hfault
      · exact .inl ⟨_, (Option.some.inj hfault).symm⟩
  have hfault : a.fault? f = some fault := by
    unfold validate at h
    split at h
    · cases h
      assumption
    · cases h
  unfold fault? at hfault
  split at hfault
  · exact .inl ⟨_, (Option.some.inj hfault).symm⟩
  · obtain ⟨n, -, hn⟩ := List.exists_of_findSome?_eq_some hfault
    cases n with
    | ingress i => cases hn
    | process p => exact hcall hn
    | switch s => exact hcall hn
    | egress e => cases hn

end Alignment

/-- The kinds of faults that count as faults of validation. -/
theorem Fault.isValidation_eq (fault : Fault) :
    fault.isValidation = decide (fault.kind ∈ [.structural, .unknownApparatus, .registry, .config]) := by
  cases fault <;> rfl

namespace Operator

/-- The limits and the alignment of a run pass their checks. -/
def Admits (op : Operator σ μ) (a : Alignment) : Prop :=
  op.limits.validate = .ok () ∧ a.validate op.foundry = .ok ()

variable {op : Operator σ μ} {a : Alignment} {order : Order} {runId : RunId} {s : Session σ μ}

/-! ## Runs that are refused -/

/-- Limits that are invalid refuse a run before its alignment is looked at. -/
theorem preflight_limits {cause : LimitsError} (h : op.limits.validate = .error cause) :
    op.preflight a = .error (.limits cause) := by
  unfold preflight
  rw [h]

/-- Under valid limits an alignment with a fault is refused for it. -/
theorem preflight_validate {fault : Fault} (hlimits : op.limits.validate = .ok ())
    (h : a.validate op.foundry = .error fault) : op.preflight a = .error fault := by
  unfold preflight
  rw [hlimits, h]
  rfl

/-- A run begins exactly when its limits and its alignment pass their checks. -/
theorem preflight_ok_iff : (∃ place, op.preflight a = .ok place) ↔ op.Admits a := by
  constructor
  · rintro ⟨place, hplace⟩
    exact ⟨(preflight_ok hplace).1, (preflight_ok hplace).2.1⟩
  · rintro ⟨hlimits, hvalid⟩
    obtain ⟨place, hentry⟩ := (Alignment.sound_of_validate hvalid).entry
    refine ⟨place, ?_⟩
    unfold preflight
    rw [hlimits, hvalid]
    dsimp only [bind, Except.bind]
    rw [hentry]

/-- A run that does not begin is refused with a fault of validation. -/
theorem exists_refusal (h : ¬op.Admits a) :
    ∃ fault, op.preflight a = .error fault ∧ fault.isValidation = true := by
  cases hlimits : op.limits.validate with
  | error cause => exact ⟨.limits cause, preflight_limits hlimits, rfl⟩
  | ok passed =>
    cases hvalid : a.validate op.foundry with
    | error fault =>
      refine ⟨fault, preflight_validate hlimits hvalid, ?_⟩
      obtain ⟨cause, rfl⟩ | ⟨node, apparatus, rfl⟩ := Alignment.validate_error hvalid <;> rfl
    | ok valid => exact absurd ⟨hlimits, hvalid⟩ h

/-- A run that is refused only says so. -/
theorem run_of_preflight_error {fault : Fault} (h : op.preflight a = .error fault) :
    op.run a order runId s =
      conclude ⟨runId, order, s.now⟩ (.error fault, {}, s.say (.runOpened a.size)) := by
  unfold run travel
  rw [h]

/-! ## Runs that are let through -/

/-- The kinds of faults that a turn can end in. -/
def turnKinds : List FaultKind :=
  [.unboundRegister, .stepLimitExceeded, .timeoutExceeded, .cancelled, .apparatusFailure,
    .missingOutput]

/-- A fault of validation is none that a turn can end in. -/
theorem not_mem_turnKinds {fault : Fault} (h : fault.isValidation = true) :
    fault.kind ∉ turnKinds := by
  rw [Fault.isValidation_eq, decide_eq_true_iff] at h
  revert h
  cases fault.kind <;> decide

/-- What refuses a run before its first turn is no fault of a turn. -/
theorem preflight_error_kind {fault : Fault} (h : op.preflight a = .error fault) :
    fault.kind ∉ turnKinds := by
  have hnot : ¬op.Admits a := fun hadmits => by
    obtain ⟨place, hplace⟩ := preflight_ok_iff.2 hadmits
    rw [h] at hplace
    cases hplace
  obtain ⟨refusal, hrefusal, hvalidation⟩ := exists_refusal hnot
  rw [h] at hrefusal
  cases hrefusal
  exact not_mem_turnKinds hvalidation

/-- What a check finds is a fault of a turn. -/
theorem checkpoint_kind {started : Nat} {n : Node} {p : Progress} {fault : Fault}
    (h : op.checkpoint started n p s = .error fault) : fault.kind ∈ turnKinds := by
  obtain rfl | rfl | ⟨-, rfl⟩ := checkpoint_error h <;> simp [turnKinds, timeoutFault, Fault.kind]

/-- A visit on a sound alignment fails at a register, at its apparatus or at an output, or its call
is cut short. -/
theorem Visits.kind_or_cut {e : Errand} {p : Progress} {n : Node} {fault : Fault} {r : Registers}
    {s' : Session σ μ} (hsound : a.Sound op.foundry) (hn : n ∈ a.operations)
    (h : op.Visits a e p n s (.error fault) r s') :
    fault.kind ∈ [.unboundRegister, .apparatusFailure, .missingOutput] ∨
      op.CutsCall a e p n s fault s' := by
  obtain ⟨-, ⟨address, rfl⟩ | ⟨apparatus, cause, rfl⟩ | ⟨var, rfl⟩ | hcut⟩ := h.fails hsound hn
  · exact .inl (by simp [Fault.kind])
  · exact .inl (by simp [Fault.kind])
  · exact .inl (by simp [Fault.kind])
  · exact .inr hcut

/-- A visit on a sound alignment does not come to anything that validation excludes. -/
theorem Visits.kind {e : Errand} {p : Progress} {n : Node} {fault : Fault} {r : Registers}
    {s' : Session σ μ} (hsound : a.Sound op.foundry) (hn : n ∈ a.operations)
    (h : op.Visits a e p n s (.error fault) r s') : fault.kind ∈ turnKinds := by
  obtain hmem | hcut := h.kind_or_cut hsound hn
  · revert hmem
    cases fault.kind <;> decide
  · obtain rfl | rfl := hcut.fault_eq <;> simp [turnKinds, timeoutFault, Fault.kind]

/-- A run that has begun ends with an output or in one of the kinds of faults of a turn. -/
theorem Runs.kind {steps : List Step} {x : Report × Session σ μ}
    (h : op.Runs a order runId s steps x) (hadmits : op.Admits a) {fault : Fault}
    (hfault : x.1.outcome = .error fault) : fault.kind ∈ turnKinds := by
  cases h with
  | refused preflight =>
    obtain ⟨place, hplace⟩ := preflight_ok_iff.2 hadmits
    rw [preflight] at hplace
    cases hplace
  | stopped reach check =>
    cases hfault
    exact checkpoint_kind check
  | failed reach check visit =>
    cases hfault
    exact visit.kind reach.sound (a.node_mem _)
  | arrived reach turn => cases hfault

/-! ## The boundary -/

/-- **Validation is where a run begins.**  What is refused has done nothing and says why, the limits
before the alignment; what is let through never ends in a fault that validation looks for, and
always stands at a position of the list of nodes.  So a fault is one of validation exactly when the
run was refused. -/
theorem validation_boundary (op : Operator σ μ) (a : Alignment) (order : Order) (runId : RunId)
    (s : Session σ μ) :
    let (report, after) := op.run a order runId s
    (∀ cause, op.limits.validate = .error cause → report.outcome = .error (.limits cause)) ∧
    (∀ fault, op.limits.validate = .ok () → a.validate op.foundry = .error fault →
      report.outcome = .error fault ∧ fault.kind ∈ [.structural, .unknownApparatus]) ∧
    (¬op.Admits a →
      report.steps = 0 ∧ report.visited = [] ∧ report.registers.slots = ∅ ∧
        report.registers.writes = 0 ∧ after.kept = s.kept ∧ after.invocations = s.invocations ∧
        after = (s.say (.runOpened a.size)).say (closing report.outcome 0)) ∧
    (op.Admits a →
      (∀ fault, report.outcome = .error fault → fault.kind ∉
        [.structural, .unknownApparatus, .danglingReference, .registry, .config, .blueprint]) ∧
      ∀ steps st, op.Reaches a order runId s steps st →
        ((steps = [] ∧ ∃ i, a.ingress? = some ((st.place : Nat), i)) ∨
          ∃ before step n target, steps = before ++ [step] ∧ a.nodeOf? step.node = some n ∧
            n.edge? step.branch = some target ∧ a.position? target = some (st.place : Nat)) ∧
        a.operations[(st.place : Nat)]? = some (a.node st.place)) ∧
    ∀ fault, report.outcome = .error fault → (fault.isValidation = true ↔ ¬op.Admits a) := by
  dsimp only
  obtain ⟨steps, hruns⟩ := op.exists_runs a order runId s
  refine ⟨fun cause hcause => ?_, fun fault hlimits hfault => ?_, fun hnot => ?_,
    fun hadmits => ⟨fun fault hfault => ?_, fun steps st hreach => ⟨?_, ?_⟩⟩,
    fun fault hfault => ⟨fun hvalidation hadmits => ?_, fun hnot => ?_⟩⟩
  · rw [run_of_preflight_error (preflight_limits hcause)]
    rfl
  · rw [run_of_preflight_error (preflight_validate hlimits hfault)]
    refine ⟨rfl, ?_⟩
    obtain ⟨cause, rfl⟩ | ⟨node, apparatus, rfl⟩ := Alignment.validate_error hfault <;>
      simp [Fault.kind]
  · obtain ⟨fault, hpreflight, -⟩ := exists_refusal hnot
    rw [run_of_preflight_error hpreflight]
    exact ⟨rfl, rfl, rfl, rfl, rfl, rfl, rfl⟩
  · -- The two lists of kinds have nothing in common.
    intro hmem
    have hturn := hruns.kind hadmits hfault
    revert hturn hmem
    cases fault.kind <;> decide
  · obtain ⟨hnil, hentry⟩ | ⟨before, step, n, target, hsteps, hnode, hedge, hplace⟩ := hreach.place
    · exact .inl ⟨hnil, Alignment.ingress_of_entry hentry⟩
    · exact .inr ⟨before, step, n, target, hsteps, hnode, hedge,
        Alignment.position_of_resolve hplace⟩
  · exact List.getElem?_eq_getElem st.place.isLt
  · exact not_mem_turnKinds hvalidation (hruns.kind hadmits hfault)
  · obtain ⟨refusal, hpreflight, hvalidation⟩ := exists_refusal hnot
    rw [run_of_preflight_error hpreflight] at hfault
    cases hfault
    exact hvalidation

end Operator
end ApparatusGraph
