/-
# The accounts of a run

A run keeps two accounts of its visits: the number of those that were admitted and the
list of those that were complete.  How it ends says how far the two can be apart:

| end | `steps` and the length of `visited` |
| --- | --- |
| refused before the first turn | both 0 |
| stopped by a check | equal |
| a visit that fails | one more step |
| an output | equal |

The checks come before the visit is counted, so the difference tells a call that was cut
short from a run that was stopped between two nodes (`Operator.step_accounting`).  The
counter stays at or below the limit, which fits into 64 bits, so it counts exactly and a
run comes to its end.
-/

import ApparatusGraph.Proofs.Run.Boundary

namespace ApparatusGraph

variable {σ μ : Type}

namespace Operator

/-- The number of times that a walk makes its checks. -/
def checks (op : Operator σ μ) (a : Alignment) (e : Errand) (st : Stand σ μ a) : Nat :=
  match h : op.turn a e st with
  | .halted _ _ _ => 1
  | .completed _ (.done _) _ _ => 1
  | .completed step (.next place) p s =>
    have := turn_completed_lt h
    op.checks a e ⟨place, p, op.emit step s⟩ + 1
termination_by op.limits.maxSteps.toNat - st.progress.steps.toNat

variable {op : Operator σ μ} {a : Alignment} {e : Errand} {order : Order} {runId : RunId}
  {s : Session σ μ} {steps : List Step}

/-- A walk at its last turn makes its checks once. -/
theorem Last.checks_eq {st : Stand σ μ a} (h : op.Last a e st) : op.checks a e st = 1 := by
  rw [checks]
  split
  · rfl
  · rfl
  · rename_i hturn
    exact absurd hturn (h _ _ _ _)

/-- A turn that goes on makes its checks once more than the walk after it. -/
theorem checks_next {st : Stand σ μ a} {step : Step} {place : Fin a.size} {p : Progress}
    {s : Session σ μ} (h : op.turn a e st = .completed step (.next place) p s) :
    op.checks a e st = op.checks a e ⟨place, p, op.emit step s⟩ + 1 := by
  rw [checks]
  split <;> rename_i heq <;> rw [h] at heq <;> cases heq
  rfl

/-- Each turn that goes on makes the checks once. -/
theorem Trail.checks_eq {st st' : Stand σ μ a} (h : op.Trail a e st steps st') :
    op.checks a e st = steps.length + op.checks a e st' := by
  induction h with
  | entry => exact (Nat.zero_add _).symm
  | @onward steps st' step place p s trail turn ih =>
    rw [ih, checks_next turn, List.length_append, List.length_singleton]
    omega

/-- Turns that go on do not take the counter above the limit. -/
theorem Trail.steps_le {st st' : Stand σ μ a} (h : op.Trail a e st steps st')
    (hle : st.progress.steps.toNat ≤ op.limits.maxSteps.toNat) :
    st'.progress.steps.toNat ≤ op.limits.maxSteps.toNat := by
  cases h with
  | entry => exact hle
  | @onward steps st' step place p s trail turn =>
    obtain ⟨hlt, hcount⟩ := turn_completed_steps turn
    have := UInt64.lt_iff_toNat_lt.1 hlt
    show p.steps.toNat ≤ _
    omega

namespace Reaches

variable {st : Stand σ μ a} {p : Progress}

/-- A run makes at most as many complete visits as its limit allows before it stands again. -/
theorem length_le (h : op.Reaches a order runId s steps st) :
    steps.length ≤ op.limits.maxSteps.toNat := by
  rw [← h.length_steps]
  obtain ⟨place, -, htrail⟩ := h
  exact htrail.steps_le (Nat.zero_le _)

/-- Between two nodes the two accounts agree. -/
theorem steps_eq_visited (h : op.Reaches a order runId s steps st) :
    st.progress.steps.toNat = st.progress.visited.toList.length := by
  rw [h.length_steps, h.visited, List.length_map]

/-- A visit that is admitted is counted, exactly. -/
theorem counted (h : op.Reaches a order runId s steps st)
    (hcheck : op.checkpoint s.now (a.node st.place) st.progress st.session = .ok p) :
    p.steps.toNat = steps.length + 1 ∧ p.steps.toNat ≤ op.limits.maxSteps.toNat := by
  obtain ⟨-, hlt, rfl⟩ := checkpoint_ok hcheck
  have hsucc := toNat_steps_succ hlt
  have := UInt64.lt_iff_toNat_lt.1 hlt
  rw [← h.length_steps]
  exact ⟨hsucc, by dsimp only; omega⟩

end Reaches

/-- A walk makes its checks at most once for each visit that the limit allows, and once more. -/
theorem checks_le {place : Fin a.size} (h : op.preflight a = .ok place) :
    op.checks a ⟨runId, order, s.now⟩ ⟨place, {}, s.say (.runOpened a.size)⟩ ≤
      op.limits.maxSteps.toNat + 1 := by
  obtain ⟨steps, last, htrail, hlast⟩ :=
    op.exists_trail_last a ⟨runId, order, s.now⟩ ⟨place, {}, s.say (.runOpened a.size)⟩
  have hreach : op.Reaches a order runId s steps last := ⟨place, h, htrail⟩
  rw [htrail.checks_eq, hlast.checks_eq]
  exact Nat.add_le_add_right hreach.length_le 1

/-! ## The two ways to be interrupted -/

/-- A check stops a run between two nodes. -/
def StopsBetween (op : Operator σ μ) (a : Alignment) (order : Order) (runId : RunId)
    (s : Session σ μ) (fault : Fault) : Prop :=
  ∃ steps st, op.Reaches a order runId s steps st ∧
    op.checkpoint s.now (a.node st.place) st.progress st.session = .error fault

/-- A call of a run is cut short. -/
def CutsShort (op : Operator σ μ) (a : Alignment) (order : Order) (runId : RunId)
    (s : Session σ μ) (fault : Fault) : Prop :=
  ∃ steps st p s', op.Reaches a order runId s steps st ∧
    op.checkpoint s.now (a.node st.place) st.progress st.session = .ok p ∧
    op.CutsCall a ⟨runId, order, s.now⟩ p (a.node st.place) st.session fault s'

/-- A run that a check stops has completed all visits that it has counted. -/
theorem StopsBetween.steps_eq {fault : Fault} (h : op.StopsBetween a order runId s fault) :
    (op.run a order runId s).1.steps = (op.run a order runId s).1.visited.length := by
  obtain ⟨steps, st, hreach, hcheck⟩ := h
  rw [hreach.run_eq, walk_halted (turn_of_checkpoint hcheck)]
  exact hreach.steps_eq_visited

/-- A run of which a call is cut short has counted one visit that is not complete. -/
theorem CutsShort.steps_eq {fault : Fault} (h : op.CutsShort a order runId s fault) :
    (op.run a order runId s).1.steps = (op.run a order runId s).1.visited.length + 1 := by
  obtain ⟨steps, st, p, s', hreach, hcheck, events, site, input, r, why, henter, hawait, rfl⟩ := h
  have hturn := turn_of_visit hcheck (.interrupted henter hawait)
  obtain ⟨-, -, rfl⟩ := checkpoint_ok hcheck
  rw [hreach.run_eq, walk_halted hturn]
  dsimp only [conclude]
  rw [(hreach.counted hcheck).1, hreach.visited, List.length_map]

/-! ## Both accounts -/

/-- What a report says of the two accounts. -/
structure Accounts (op : Operator σ μ) (a : Alignment) (order : Order) (runId : RunId)
    (s : Session σ μ) (report : Report) : Prop where
  bounded : report.steps ≤ op.limits.maxSteps.toNat
  least : report.visited.length ≤ report.steps
  most : report.steps ≤ report.visited.length + 1
  succeeded : ∀ output, report.outcome = .ok output → report.steps = report.visited.length
  limited : ∀ limit node, report.outcome = .error (.stepLimitExceeded limit node) →
    report.steps = report.visited.length ∧ report.visited.length = limit ∧
      limit = op.limits.maxSteps.toNat
  failed : ∀ fault, report.outcome = .error fault →
    fault.kind ∈ [.unboundRegister, .apparatusFailure, .missingOutput] →
      report.steps = report.visited.length + 1
  cancelled : ∀ n, report.outcome = .error (.cancelled n) → n = report.steps
  between : ∀ fault, report.outcome = .error fault → fault.kind ∈ [.cancelled, .timeoutExceeded] →
    report.steps = report.visited.length → op.StopsBetween a order runId s fault
  short : ∀ fault, report.outcome = .error fault → fault.kind ∈ [.cancelled, .timeoutExceeded] →
    report.steps = report.visited.length + 1 → op.CutsShort a order runId s fault

/-- The accounts of a run that is refused agree: both are empty. -/
theorem accounts_refused {fault : Fault} (preflight : op.preflight a = .error fault)
    (s' : Session σ μ) : op.Accounts a order runId s (conclude e (.error fault, {}, s')).1 := by
  have hkind := preflight_error_kind preflight
  refine {
    bounded := Nat.zero_le _, least := Nat.le_refl _, most := Nat.zero_le _,
    succeeded := fun _ _ => rfl, limited := ?limited, failed := ?failed, cancelled := ?cancelled,
    between := ?between, short := ?short }
  case limited =>
    rintro limit node ⟨⟩
    exact absurd (by decide : FaultKind.stepLimitExceeded ∈ turnKinds) hkind
  case failed =>
    rintro other ⟨⟩ hmem
    exact absurd ((by decide : ∀ k ∈ [FaultKind.unboundRegister, .apparatusFailure,
      .missingOutput], k ∈ turnKinds) _ hmem) hkind
  case cancelled =>
    rintro n ⟨⟩
    exact absurd (by decide : FaultKind.cancelled ∈ turnKinds) hkind
  case between =>
    rintro other ⟨⟩ hmem
    exact absurd ((by decide : ∀ k ∈ [FaultKind.cancelled, .timeoutExceeded], k ∈ turnKinds) _
      hmem) hkind
  case short => rintro other - - ⟨⟩

/-- The accounts of a run that a check stops agree, and the fault is that of the check. -/
theorem accounts_stopped {st : Stand σ μ a} {fault : Fault}
    (reach : op.Reaches a order runId s steps st)
    (check : op.checkpoint s.now (a.node st.place) st.progress st.session = .error fault)
    (s' : Session σ μ) :
    op.Accounts a order runId s (conclude e (.error fault, st.progress, s')).1 := by
  have hsteps := reach.steps_eq_visited
  have hbounded : st.progress.steps.toNat ≤ op.limits.maxSteps.toNat :=
    Nat.le_trans (Nat.le_of_eq reach.length_steps) reach.length_le
  refine {
    bounded := hbounded, least := Nat.le_of_eq hsteps.symm,
    most := Nat.le_succ_of_le (Nat.le_of_eq hsteps), succeeded := fun _ _ => hsteps,
    limited := ?limited, failed := ?failed, cancelled := ?cancelled,
    between := ?between, short := ?short }
  case limited =>
    rintro limit node ⟨⟩
    obtain hfault | hfault | ⟨hlimit, hfault⟩ := checkpoint_error check <;> cases hfault
    have hreached := Nat.le_antisymm hbounded (UInt64.le_iff_toNat_le.1 hlimit)
    exact ⟨hsteps, hsteps.symm.trans hreached, rfl⟩
  case failed =>
    rintro other ⟨⟩ hmem
    obtain rfl | rfl | ⟨-, rfl⟩ := checkpoint_error check <;>
      simp [timeoutFault, Fault.kind] at hmem
  case cancelled =>
    rintro n ⟨⟩
    obtain hfault | hfault | ⟨-, hfault⟩ := checkpoint_error check <;> cases hfault
    rfl
  case between =>
    rintro other ⟨⟩ - -
    exact ⟨steps, st, reach, check⟩
  case short =>
    rintro other - - hmore
    exact absurd (hsteps.symm.trans hmore) (Nat.succ_ne_self _).symm

/-- The accounts of a run that ends in a visit differ by that visit. -/
theorem accounts_failed {st : Stand σ μ a} {admitted : Progress} {fault : Fault}
    {registers : Registers} {s' : Session σ μ} (reach : op.Reaches a order runId s steps st)
    (check : op.checkpoint s.now (a.node st.place) st.progress st.session = .ok admitted)
    (visit : op.Visits a ⟨runId, order, s.now⟩ admitted (a.node st.place) st.session
      (.error fault) registers s') :
    op.Accounts a order runId s
      (conclude e (.error fault, { admitted with registers }, s')).1 := by
  have hsteps : admitted.steps.toNat = admitted.visited.toList.length + 1 := by
    rw [(reach.counted check).1, (checkpoint_ok check).2.2, reach.visited, List.length_map]
  have hends := visit.kind_or_cut reach.sound (a.node_mem _)
  refine {
    bounded := (reach.counted check).2,
    least := Nat.le_trans (Nat.le_succ _) (Nat.le_of_eq hsteps.symm),
    most := Nat.le_of_eq hsteps, succeeded := ?succeeded, limited := ?limited,
    failed := fun _ _ _ => hsteps, cancelled := ?cancelled, between := ?between,
    short := ?short }
  case succeeded => rintro output ⟨⟩
  case limited =>
    rintro limit node ⟨⟩
    obtain hmem | hcut := hends
    · simp [Fault.kind] at hmem
    · obtain hfault | hfault := hcut.fault_eq <;> cases hfault
  case cancelled =>
    rintro n ⟨⟩
    obtain hmem | hcut := hends
    · simp [Fault.kind] at hmem
    · obtain hfault | hfault := hcut.fault_eq <;> cases hfault
      rfl
  case between =>
    rintro other - - hless
    exact absurd (hsteps.symm.trans hless) (Nat.succ_ne_self _)
  case short =>
    rintro other ⟨⟩ hmem -
    obtain hother | hcut := hends
    · -- The two lists of kinds have nothing in common.
      exfalso
      revert hmem hother
      cases fault.kind <;> decide
    · exact ⟨steps, st, admitted, s', reach, check, hcut⟩

/-- The accounts of a run that arrives agree. -/
theorem accounts_arrived {st : Stand σ μ a} {step : Step} {output : Output} {p : Progress}
    {s' after : Session σ μ} (reach : op.Reaches a order runId s steps st)
    (turn : op.turn a ⟨runId, order, s.now⟩ st = .completed step (.done output) p s') :
    op.Accounts a order runId s (conclude e (.ok output, p, after)).1 := by
  have hsteps : p.steps.toNat = p.visited.toList.length := by
    rw [(turn_completed_steps turn).2, turn_completed_visited turn, reach.length_steps,
      reach.visited, List.length_append, List.length_map]
    rfl
  obtain ⟨admitted, v, registers, after, hcheck, -, -, -, rfl, -⟩ := turn_completed turn
  refine {
    bounded := (reach.counted hcheck).2, least := Nat.le_of_eq hsteps.symm,
    most := Nat.le_succ_of_le (Nat.le_of_eq hsteps), succeeded := fun _ _ => hsteps,
    limited := ?limited, failed := ?failed, cancelled := ?cancelled,
    between := ?between, short := ?short }
  case limited => rintro limit node ⟨⟩
  case failed => rintro other ⟨⟩
  case cancelled => rintro n ⟨⟩
  case between => rintro other ⟨⟩
  case short => rintro other ⟨⟩

/-- Each way that a run can go keeps both accounts. -/
theorem Runs.accounts {x : Report × Session σ μ} (h : op.Runs a order runId s steps x) :
    op.Accounts a order runId s x.1 := by
  cases h with
  | refused preflight => exact accounts_refused preflight _
  | stopped reach check => exact accounts_stopped reach check _
  | failed reach check visit => exact accounts_failed reach check visit
  | arrived reach turn => exact accounts_arrived reach turn

/-- **A run is bounded by its limit, and its two accounts agree.**  The checks are made at most once
for each visit that the limit allows and once more, and the counter of 64 bits is exact at each of
them.  Visits that are counted and visits that are complete differ by the one visit, if any, that
failed or was cut short, and the fault tells which. -/
theorem step_accounting (op : Operator σ μ) (a : Alignment) (order : Order) (runId : RunId)
    (s : Session σ μ) :
    let report := (op.run a order runId s).1
    (∀ place, op.preflight a = .ok place →
      op.checks a ⟨runId, order, s.now⟩ ⟨place, {}, s.say (.runOpened a.size)⟩ ≤
        op.limits.maxSteps.toNat + 1) ∧
    (∀ steps st p, op.Reaches a order runId s steps st →
      op.checkpoint s.now (a.node st.place) st.progress st.session = .ok p →
        st.progress.steps.toNat = steps.length ∧ p.steps.toNat = steps.length + 1) ∧
    report.steps ≤ op.limits.maxSteps.toNat ∧
    report.visited.length ≤ report.steps ∧ report.steps ≤ report.visited.length + 1 ∧
    (∀ output, report.outcome = .ok output → report.steps = report.visited.length) ∧
    (∀ limit node, report.outcome = .error (.stepLimitExceeded limit node) →
      report.steps = report.visited.length ∧ report.visited.length = limit ∧
        limit = op.limits.maxSteps.toNat) ∧
    (∀ fault, report.outcome = .error fault →
      fault.kind ∈ [.unboundRegister, .apparatusFailure, .missingOutput] →
        report.steps = report.visited.length + 1) ∧
    (∀ n, report.outcome = .error (.cancelled n) → n = report.steps) ∧
    ∀ fault, report.outcome = .error fault → fault.kind ∈ [.cancelled, .timeoutExceeded] →
      (report.steps = report.visited.length + 1 ↔ op.CutsShort a order runId s fault) ∧
        (report.steps = report.visited.length ↔ op.StopsBetween a order runId s fault) := by
  obtain ⟨steps, hruns⟩ := op.exists_runs a order runId s
  have h := hruns.accounts
  refine ⟨fun _ => checks_le, fun steps st p hreach hcheck =>
    ⟨hreach.length_steps, (hreach.counted hcheck).1⟩, h.bounded, h.least, h.most, h.succeeded,
    h.limited, h.failed, h.cancelled, fun fault hfault hkind => ⟨⟨?_, ?_⟩, ?_, ?_⟩⟩
  · exact h.short fault hfault hkind
  · exact CutsShort.steps_eq
  · exact h.between fault hfault hkind
  · exact StopsBetween.steps_eq

end Operator
end ApparatusGraph
