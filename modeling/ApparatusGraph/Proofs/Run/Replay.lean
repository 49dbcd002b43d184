/-
# Replaying a transcript

The steps of a run say all that the run did to its registers.  `Alignment.replay` does
the writes of recorded steps again, beginning with nothing:

| step of | writes |
| --- | --- |
| an ingress | its outputs, which are kept under the addresses they were bound to |
| a process | its outputs, as the node maps them |
| a switch | its outputs, as the recorded branch maps them |
| an egress | nothing |

`Operator.replay_transcript` says that this gives the registers of the run, however the
run ended, and that the inputs of each step are what the replay held before it.  Along
the trail this is the invariant `Replayed`.  A last visit that failed has written
nothing, so it needs no step.
-/

import ApparatusGraph.Proofs.Registers
import ApparatusGraph.Proofs.Run.Medium

namespace ApparatusGraph

variable {σ μ : Type}

namespace Alignment

/-- What registers hold after a recorded step. -/
def replayStep (a : Alignment) (slots : Named Param) (step : Step) : Named Param :=
  match a.nodeOf? step.node with
  | some (.ingress _) => slots.insertAll step.outputs.entries
  | some n => (n.sinks step.branch).entries.foldl (fun slots (var, address) =>
      match step.outputs.get? var with
      | some p => slots.insert address p
      | none => slots) slots
  | none => slots

/-- What registers hold after recorded steps, when they held nothing before. -/
def replay (a : Alignment) (steps : List Step) : Named Param := steps.foldl a.replayStep ∅

/-- A step more is replayed last. -/
theorem replay_append_singleton (a : Alignment) (steps : List Step) (step : Step) :
    a.replay (steps ++ [step]) = a.replayStep (a.replay steps) step :=
  List.foldl_append

end Alignment

/-- Inserting what is there of mapped outputs is inserting their writes. -/
theorem Registers.foldl_sinks (output : Record) (entries : List (Var × Address))
    (slots : Named Param) :
    entries.foldl (fun slots (var, address) =>
        match output.get? var with
        | some p => slots.insert address p
        | none => slots) slots =
      slots.insertAll (entries.filterMap fun (var, address) =>
        (output.get? var).map (address, ·)) := by
  induction entries generalizing slots with
  | nil => rfl
  | cons entry rest ih =>
    obtain ⟨var, address⟩ := entry
    rw [List.foldl_cons, List.filterMap_cons, ih]
    dsimp only
    cases output.get? var with
    | none => rfl
    | some p => rfl

/-- The step of a complete visit does to any registers what the visit did. -/
theorem Node.Completes.replayStep {a : Alignment} {n : Node} {o : Order} {r r' : Registers}
    {v : Visit a} {step : Step} (h : n.Completes o r v r') (hnode : a.nodeOf? step.node = some n)
    (houtputs : step.outputs = v.outputs) (hbranch : step.branch = v.branch) :
    a.replayStep r.slots step = r'.slots := by
  rw [h.registers, Registers.slots_writeAll]
  unfold Alignment.replayStep
  rw [hnode]
  cases n with
  | ingress i =>
    dsimp only
    rw [houtputs, h.bound i rfl, Named.insertAll_entries_ofList]
    rfl
  | process p =>
    rw [houtputs]
    exact Registers.foldl_sinks ..
  | switch s =>
    rw [houtputs, hbranch]
    exact Registers.foldl_sinks ..
  | egress x => rfl

/-- The steps so far replay to what the registers hold, and each has read what the steps before it
replay to. -/
structure Replayed (a : Alignment) (steps : List Step) (slots : Named Param) : Prop where
  slots : a.replay steps = slots
  inputs : ∀ i step, steps[i]? = some step → ∃ n, a.nodeOf? step.node = some n ∧
    ∀ var, step.inputs.get? var = (n.sources.get? var).bind (a.replay (steps.take i)).get?

namespace Replayed

variable {a : Alignment} {steps : List Step}

/-- Where there is no step, nothing is bound. -/
theorem nil (a : Alignment) : Replayed a [] ∅ := ⟨rfl, fun _ _ h => by cases h⟩

/-- One more complete visit. -/
theorem snoc {n : Node} {o : Order} {r r' : Registers} {v : Visit a} {step : Step}
    (h : Replayed a steps r.slots) (hcomplete : n.Completes o r v r')
    (hnode : a.nodeOf? step.node = some n) (hinputs : step.inputs = v.inputs)
    (houtputs : step.outputs = v.outputs) (hbranch : step.branch = v.branch) :
    Replayed a (steps ++ [step]) r'.slots := by
  refine ⟨?_, fun i other hother => ?_⟩
  · rw [Alignment.replay_append_singleton, h.slots]
    exact hcomplete.replayStep hnode houtputs hbranch
  · rcases getElem?_append_singleton hother with ⟨hlt, hother⟩ | ⟨rfl, rfl⟩
    · rw [List.take_append_of_le_length (Nat.le_of_lt hlt)]
      exact h.inputs i other hother
    · refine ⟨n, hnode, fun var => ?_⟩
      rw [List.take_left, h.slots, hinputs]
      exact hcomplete.inputs var

end Replayed

namespace Operator

variable {op : Operator σ μ} {a : Alignment} {e : Errand}

/-- A complete visit is replayed by its step. -/
theorem turn_completed_replayed (hsound : a.Sound op.foundry) {st : Stand σ μ a} {step : Step}
    {onward : Onward a} {p : Progress} {s : Session σ μ} {steps : List Step}
    (h : Replayed a steps st.progress.registers.slots)
    (hturn : op.turn a e st = .completed step onward p s) :
    Replayed a (steps ++ [step]) p.registers.slots := by
  obtain ⟨admitted, v, registers, s', hcheck, hvisit, rfl, rfl, rfl, -⟩ := turn_completed hturn
  obtain ⟨-, -, rfl⟩ := checkpoint_ok hcheck
  have hcomplete := hvisit.completes hsound (a.node_mem st.place)
  exact h.snoc hcomplete (hsound.nodeOf_node st.place) rfl rfl rfl

/-- The steps along a trail are replayed to the registers at its end. -/
theorem Trail.replayed (hsound : a.Sound op.foundry) {st st' : Stand σ μ a} {steps : List Step}
    (h : op.Trail a e st steps st') (hempty : st.progress.registers.slots = ∅) :
    Replayed a steps st'.progress.registers.slots := by
  induction h with
  | entry => exact hempty ▸ .nil a
  | onward trail turn ih => exact turn_completed_replayed hsound ih turn

/-- The steps of a run are replayed to its registers, wherever it stands. -/
theorem Reaches.replayed {order : Order} {runId : RunId} {s : Session σ μ} {steps : List Step}
    {st : Stand σ μ a} (h : op.Reaches a order runId s steps st) :
    Replayed a steps st.progress.registers.slots := by
  obtain ⟨place, hpreflight, htrail⟩ := h
  exact htrail.replayed (sound_of_preflight hpreflight) rfl

/-- However a run goes, its steps replay to the registers that it reports. -/
theorem Runs.replayed {order : Order} {runId : RunId} {s : Session σ μ} {steps : List Step}
    {x : Report × Session σ μ} (h : op.Runs a order runId s steps x) :
    Replayed a steps x.1.registers.slots := by
  cases h with
  | refused preflight => exact .nil a
  | stopped reach check => exact reach.replayed
  | failed reach check visit =>
    obtain ⟨-, -, rfl⟩ := checkpoint_ok check
    rw [(visit.fails reach.sound (a.node_mem _)).1]
    exact reach.replayed
  | arrived reach turn => exact turn_completed_replayed reach.sound reach.replayed turn

/-- **The transcript of a run replays to its registers.**  However a run ends, the recorded steps
are those of the nodes whose visit is complete, they give what its registers hold at the end, and
the inputs of each step are the registers that its node reads, as far as the steps before it had
bound them. -/
theorem replay_transcript (op : Operator σ μ) (a : Alignment) (order : Order) (runId : RunId)
    (s : Session σ μ) :
    let (report, after) := op.transcribed.run a order runId (s.keeping #[])
    let steps := after.kept.toList
    report.visited = steps.map (·.node) ∧ a.replay steps = report.registers.slots ∧
      ∀ i step, steps[i]? = some step → ∃ n, a.nodeOf? step.node = some n ∧
        ∀ var, step.inputs.get? var = (n.sources.get? var).bind (a.replay (steps.take i)).get? := by
  obtain ⟨steps, hruns⟩ := op.transcribed.exists_runs a order runId (s.keeping #[])
  have hreplayed := hruns.replayed
  dsimp only
  rw [hruns.kept_transcript]
  exact ⟨hruns.visited, hreplayed.slots, hreplayed.inputs⟩

end Operator
end ApparatusGraph
