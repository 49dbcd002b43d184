/-
# Numbers in words of 64 bits

The number of writes to registers, and the two numbers that a run reports when it has timed
out, are kept in words of 64 bits: a counter that wraps around, and times of which the upper
part is cut off.  Here they are natural numbers, which is the same as far as a word reaches.

| number | fits into a word when |
| --- | --- |
| writes of a run | the limit on steps times the width of the alignment does |
| budget of a run that timed out | always |
| time of a run that timed out | the time of the whole run does |

The width of an alignment is the most writes that one of its nodes makes in a visit
(`Alignment.width`), so a run whose counter wraps around has a limit of `2 ^ 64` divided by it
at least (`Operator.fits_words`).
-/

import ApparatusGraph.Proofs.Run.Budget

namespace ApparatusGraph

variable {σ μ : Type}

/-! ## The counter of writes -/

namespace Registers

/-- The number of writes as a word has it. -/
def counter (r : Registers) : UInt64 := .ofNat r.writes

/-- **The word counts every write,** and wraps around as words do. -/
theorem counter_write (r : Registers) (address : Address) (p : Param) :
    (r.write address p).counter = r.counter + 1 :=
  UInt64.ofNat_add r.writes 1

/-- The word is the number while the number fits into it. -/
theorem toNat_counter {r : Registers} (h : r.writes < UInt64.size) :
    r.counter.toNat = r.writes :=
  UInt64.toNat_ofNat_of_lt' h

end Registers

/-! ## The writes of a visit -/

namespace Node

/-- The most writes that a visit of a node makes. -/
def width : Node → Nat
  | ingress i => i.fileAddrs.length + 1
  | process p => p.outputs.size
  | switch s => max s.outputsWhenTrue.size s.outputsWhenFalse.size
  | egress _ => 0

/-- The sinks of a node with an apparatus are no wider than the node. -/
theorem size_sinks_le (n : Node) (branch : Option Bool) : (n.sinks branch).size ≤ n.width := by
  cases n with
  | ingress i => exact Nat.zero_le _
  | egress x => exact Nat.zero_le _
  | process p => exact Nat.le_refl _
  | switch s =>
    cases branch with
    | none => exact Nat.zero_le _
    | some verdict =>
      cases verdict with
      | true => exact Nat.le_max_left _ _
      | false => exact Nat.le_max_right _ _

/-- **A visit makes no more writes than its node is wide.** -/
theorem length_writes_le {a : Alignment} (n : Node) (o : Order) (v : Visit a) :
    (n.writes o v).length ≤ n.width := by
  have hsinks : (Registers.writesOf (n.sinks v.branch) v.outputs).length ≤ n.width :=
    Nat.le_trans (List.length_filterMap_le _ _) (n.size_sinks_le v.branch)
  cases n with
  | process p => exact hsinks
  | switch s => exact hsinks
  | egress x => exact hsinks
  | ingress i =>
    show (i.writes o).length ≤ i.fileAddrs.length + 1
    unfold Ingress.writes
    rw [List.length_cons, List.length_map, List.length_zip]
    exact Nat.succ_le_succ (Nat.min_le_left _ _)

end Node

namespace Alignment

/-- The most writes that one of the nodes makes in a visit. -/
def width (a : Alignment) : Nat := (a.operations.map Node.width).foldr max 0

/-- No node is wider than its alignment. -/
theorem width_le {a : Alignment} {n : Node} (h : n ∈ a.operations) : n.width ≤ a.width := by
  unfold width
  generalize a.operations = nodes at h
  induction nodes with
  | nil => cases h
  | cons first rest ih =>
    rw [List.map_cons, List.foldr_cons]
    obtain rfl | hrest := List.mem_cons.1 h
    · exact Nat.le_max_left _ _
    · exact Nat.le_trans (ih hrest) (Nat.le_max_right _ _)

end Alignment

/-! ## The writes of a run -/

namespace Operator

variable {op : Operator σ μ} {a : Alignment} {e : Errand} {order : Order} {runId : RunId}
  {s : Session σ μ} {steps : List Step} {st : Stand σ μ a}

/-- A turn that goes on makes no more writes than the alignment is wide. -/
theorem turn_completed_writes (hsound : a.Sound op.foundry) {step : Step} {onward : Onward a}
    {p : Progress} {t : Session σ μ} (h : op.turn a e st = .completed step onward p t) :
    p.registers.writes ≤ st.progress.registers.writes + a.width := by
  obtain ⟨admitted, v, registers, s', hcheck, hvisit, -, -, rfl, -⟩ := turn_completed h
  obtain ⟨-, -, rfl⟩ := checkpoint_ok hcheck
  have hcompletes := hvisit.completes hsound (a.node_mem st.place)
  show registers.writes ≤ _
  rw [hcompletes.registers, Registers.writes_writeAll]
  exact Nat.add_le_add_left
    (Nat.le_trans (Node.length_writes_le _ _ v) (Alignment.width_le (a.node_mem st.place))) _

/-- Between two nodes a run has made no more writes than its steps at full width. -/
theorem Reaches.writes_le (h : op.Reaches a order runId s steps st) :
    st.progress.registers.writes ≤ a.width * steps.length := by
  have hsound := h.sound
  obtain ⟨place, -, htrail⟩ := h
  induction htrail with
  | entry => exact Nat.zero_le _
  | @onward steps st' step place p t trail turn ih =>
    have hturn := turn_completed_writes hsound turn
    rw [List.length_append, List.length_singleton, Nat.mul_succ]
    show p.registers.writes ≤ _
    omega

/-- **A run makes no more writes than its steps at full width.** -/
theorem Runs.writes_le {x : Report × Session σ μ} (h : op.Runs a order runId s steps x) :
    x.1.registers.writes ≤ a.width * x.1.steps := by
  have hvisited := h.visited
  have hleast := h.accounts.least
  rw [hvisited, List.length_map] at hleast
  refine Nat.le_trans ?_ (Nat.mul_le_mul_left a.width hleast)
  cases h with
  | refused preflight => exact Nat.zero_le _
  | stopped reach check => exact reach.writes_le
  | failed reach check visit =>
    -- A visit that fails has written nothing.
    obtain ⟨hsame, -⟩ := visit.fails reach.sound (a.node_mem _)
    obtain ⟨-, -, rfl⟩ := checkpoint_ok check
    show Registers.writes _ ≤ _
    rw [hsame]
    exact reach.writes_le
  | @arrived _ st step output p t reach turn =>
    have hturn := turn_completed_writes reach.sound turn
    have hsofar := reach.writes_le
    rw [List.length_append, List.length_singleton, Nat.mul_succ]
    show p.registers.writes ≤ _
    omega

/-- A run that times out has a budget. -/
theorem exists_budget {elapsed budget : Nat}
    (h : (op.run a order runId s).1.outcome = .error (.timeoutExceeded elapsed budget)) :
    ∃ b, op.limits.timeoutMs = some b := by
  have hdeadline {started d : Nat} (hd : op.deadline started = some d) :
      ∃ b, op.limits.timeoutMs = some b := by
    obtain ⟨b, hb, -⟩ := Option.map_eq_some_iff.1 hd
    exact ⟨b, hb⟩
  obtain ⟨steps, st, -, check, -⟩ |
    ⟨steps, st, site, input, ms, next, t, why, t', -, hpause, hfault, -⟩ :=
    run_stopped h (by simp [Fault.kind])
  · obtain hinterrupted | ⟨-, -, hfault⟩ := checkpoint_refuses check
    · obtain ⟨-, hfault⟩ | ⟨hoverrun, -⟩ := interruption_eq_some hinterrupted
      · cases hfault
      · unfold overrun at hoverrun
        split at hoverrun
        · rename_i d hd
          exact hdeadline hd
        · cases hoverrun
    · cases hfault
  · cases why with
    | cancelled => cases hfault
    | timedOut =>
      obtain ⟨d, hd, -⟩ := Session.le_of_pauseUntil_timedOut hpause
      exact hdeadline hd

/-- **The numbers of a run fit into words,** as far as its limit on steps and its time do: the
counter of writes is exact, and a run that timed out reports its budget and its time. -/
theorem fits_words (op : Operator σ μ) (a : Alignment) (order : Order) (runId : RunId)
    (s : Session σ μ) :
    let report := (op.run a order runId s).1
    report.registers.writes ≤ a.width * report.steps ∧
    (a.width * op.limits.maxSteps.toNat < UInt64.size →
      report.registers.counter.toNat = report.registers.writes) ∧
    ∀ elapsed budget, report.outcome = .error (.timeoutExceeded elapsed budget) →
      (UInt64.ofNat budget).toNat = budget ∧
      (report.elapsed < UInt64.size → (UInt64.ofNat elapsed).toNat = elapsed) := by
  obtain ⟨steps, hruns⟩ := op.exists_runs a order runId s
  have hwrites := hruns.writes_le
  refine ⟨hwrites, fun hfits => ?_, fun elapsed budget h => ?_⟩
  · have hbounded := Nat.mul_le_mul_left a.width hruns.accounts.bounded
    exact Registers.toNat_counter (Nat.lt_of_le_of_lt (Nat.le_trans hwrites hbounded) hfits)
  · obtain ⟨b, hbudget⟩ := exists_budget h
    obtain ⟨rfl, helapsed, -⟩ := timeout_eq hbudget h
    refine ⟨?_, fun hshort => ?_⟩
    · rw [UInt64.ofNat_toNat]
    · exact UInt64.toNat_ofNat_of_lt' (helapsed ▸ hshort)

end Operator
end ApparatusGraph
