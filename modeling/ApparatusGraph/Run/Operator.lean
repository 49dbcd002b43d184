/-
# Runs

An operator runs alignments on orders.  A run checks the limits and the alignment,
begins at the ingress and visits one node after the other until an egress ends it
with an output or something ends it with a fault.

Between two nodes it looks, in this order, at the token, the budget and the number of
steps; a visit that the number of steps refuses is not counted.  A call is raced
against the token and the budget.  Each complete visit is handed to the medium, and
what the medium makes of it changes nothing in the run.

| definition | covers |
| --- | --- |
| `Operator.checkpoint` | the checks between two nodes |
| `Operator.visit` | one node |
| `Operator.turn` | the checks and the node |
| `Operator.walk` | turn after turn until one is the last |

Every turn that goes on has counted one more step below the limit, so every run ends.
-/

import ApparatusGraph.Limits.Basic
import ApparatusGraph.Run.Session
import ApparatusGraph.Run.Visit
import ApparatusGraph.Trace.Medium

namespace ApparatusGraph

/-- What runs alignments. -/
structure Operator (σ μ : Type) where
  foundry : Foundry σ
  limits : Limits := {}
  medium : Option (Medium μ) := none

/-- How far a run has come. -/
structure Progress where
  registers : Registers := {}
  /-- visits allowed so far -/
  steps : UInt64 := 0
  /-- nodes whose visit is complete -/
  visited : Array Waypoint := #[]

/-- The progress after the complete visit of a node. -/
def Progress.past (p : Progress) (n : Node) (r : Registers) : Progress :=
  { p with registers := r, visited := p.visited.push n.waypoint }

/-- Where a run stands between two nodes. -/
structure Stand (σ μ : Type) (a : Alignment) where
  place : Fin a.size
  progress : Progress
  session : Session σ μ

/-- What a turn of a run comes to: a complete visit, or a fault that ends the run. -/
inductive Turn (σ μ : Type) (a : Alignment) where
  | completed (step : Step) (onward : Onward a) (p : Progress) (s : Session σ μ)
  | halted (fault : Fault) (p : Progress) (s : Session σ μ)

/-- How a run ended. -/
structure Report where
  runId : RunId
  outcome : Except Fault Output
  registers : Registers
  visited : List Waypoint
  steps : Nat
  /-- milliseconds from start to end -/
  elapsed : Nat

/-- What stays the same during a run. -/
structure Errand where
  runId : RunId
  order : Order
  /-- when the run began, in milliseconds -/
  started : Nat

namespace Operator

variable {σ μ : Type}

/-- When the budget of a run ends. -/
def deadline (op : Operator σ μ) (started : Nat) : Option Nat :=
  op.limits.timeoutMs.map fun budget => started + budget.toNat

/-- The fault of a budget that has run out; its two numbers are kept in words of 64 bits, into which
they fit (`Operator.fits_words`). -/
def timeoutFault (op : Operator σ μ) (started now : Nat) : Fault :=
  .timeoutExceeded (now - started) ((op.limits.timeoutMs.map UInt64.toNat).getD 0)

/-- True when more time has passed than the budget allows. -/
def overrun (op : Operator σ μ) (started now : Nat) : Bool :=
  match op.deadline started with
  | some d => d < now
  | none => false

/-- The fault that stops a run between two nodes, the number of steps apart. -/
def interruption? (op : Operator σ μ) (started steps : Nat) (s : Session σ μ) : Option Fault :=
  if s.cancelled then some (.cancelled steps)
  else if op.overrun started s.now then some (op.timeoutFault started s.now)
  else none

/-- The fault of a call that was cut short. -/
def interruptionFault (op : Operator σ μ) (started steps now : Nat) : Interruption → Fault
  | .cancelled => .cancelled steps
  | .timedOut => op.timeoutFault started now

/-- The checks before a visit; a visit that is refused is not counted. -/
def checkpoint (op : Operator σ μ) (started : Nat) (n : Node) (p : Progress) (s : Session σ μ) :
    Except Fault Progress :=
  match op.interruption? started p.steps.toNat s with
  | some fault => .error fault
  | none =>
    if op.limits.maxSteps ≤ p.steps then
      .error (.stepLimitExceeded op.limits.maxSteps.toNat n.label)
    else .ok { p with steps := p.steps + 1 }

/-- Visits a node; gives the registers and the session after the visit, complete or not. -/
def visit (op : Operator σ μ) (a : Alignment) (e : Errand) (p : Progress) (n : Node)
    (s : Session σ μ) : Except Fault (Visit a) × Registers × Session σ μ :=
  let (events, entered, r) := n.enter op.foundry a e.order p.registers
  let s := s.sayAll events
  match entered with
  | .error fault => (.error fault, r, s)
  | .ok (.visited v) => (.ok v, r, s)
  | .ok (.calls site input) =>
    match (site.call input).await (op.deadline e.started) (s.invoke site.apparatus input) with
    | (.interrupted why, s) =>
      (.error (op.interruptionFault e.started p.steps.toNat s.now why), r, s)
    | (.answered (.error cause), s) =>
      (.error (.apparatusFailure site.node site.apparatus cause), r, s)
    | (.answered (.ok answer), s) =>
      let (events, result, r) := site.leave a input answer r
      (result, r, s.sayAll events)

/-- The step of a complete visit that began at a time. -/
def stepOf {a : Alignment} (e : Errand) (steps : UInt64) (began now : Nat) (n : Node)
    (v : Visit a) : Step where
  runId := e.runId
  index := steps
  node := n.waypoint
  startedAt := .ofMillis began
  endedAt := .ofMillis now
  inputs := v.inputs
  outputs := v.outputs
  branch := v.branch

/-- One turn of a run: the checks, then the visit of the node. -/
def turn (op : Operator σ μ) (a : Alignment) (e : Errand) (st : Stand σ μ a) : Turn σ μ a :=
  let n := a.node st.place
  match op.checkpoint e.started n st.progress st.session with
  | .error fault => .halted fault st.progress st.session
  | .ok p =>
    match op.visit a e p n st.session with
    | (.error fault, registers, s) => .halted fault { p with registers } s
    | (.ok v, registers, s) =>
      .completed (stepOf e p.steps st.session.now s.now n v) v.onward (p.past n registers)
        (s.say (.transition p.steps.toNat n.waypoint v.branch))

/-- Hands a step to the medium. -/
def emit (op : Operator σ μ) (step : Step) (s : Session σ μ) : Session σ μ :=
  match op.medium with
  | none => s
  | some medium =>
    let recorded := medium.record step s.kept
    let s := { s with kept := recorded.kept }.sayAll recorded.events
    match recorded.result with
    | .ok () => s
    | .error cause => s.say (.recordFailed step.index.toNat step.node cause)

/-- A visit is admitted where nothing interrupts the run and the limit on steps is not reached, and
it is counted. -/
theorem checkpoint_ok {op : Operator σ μ} {started : Nat} {n : Node} {p p' : Progress}
    {s : Session σ μ} (h : op.checkpoint started n p s = .ok p') :
    op.interruption? started p.steps.toNat s = none ∧ p.steps < op.limits.maxSteps ∧
      p' = { p with steps := p.steps + 1 } := by
  unfold checkpoint at h
  split at h
  · cases h
  · rename_i hnone
    split at h
    · cases h
    · rename_i hlt
      cases h
      exact ⟨hnone, UInt64.not_le.1 hlt, rfl⟩

/-- A number below a limit of 64 bits can be counted up. -/
theorem toNat_steps_succ {steps limit : UInt64} (h : steps < limit) :
    (steps + 1).toNat = steps.toNat + 1 := by
  have hlt := UInt64.lt_iff_toNat_lt.1 h
  have hmax := limit.toNat_lt
  rw [UInt64.toNat_add, UInt64.toNat_one]
  omega

/-- A visit that is admitted leaves fewer visits that are still allowed. -/
theorem checkpoint_lt {op : Operator σ μ} {started : Nat} {n : Node} {p p' : Progress}
    {s : Session σ μ} (h : op.checkpoint started n p s = .ok p') :
    op.limits.maxSteps.toNat - p'.steps.toNat < op.limits.maxSteps.toNat - p.steps.toNat := by
  obtain ⟨-, hlt, rfl⟩ := checkpoint_ok h
  have hsucc := toNat_steps_succ hlt
  have := UInt64.lt_iff_toNat_lt.1 hlt
  dsimp only
  omega

/-- A turn that completes a visit leaves fewer visits that are still allowed. -/
theorem turn_completed_lt {op : Operator σ μ} {a : Alignment} {e : Errand} {st : Stand σ μ a}
    {step : Step} {onward : Onward a} {p : Progress} {s : Session σ μ}
    (h : op.turn a e st = .completed step onward p s) :
    op.limits.maxSteps.toNat - p.steps.toNat <
      op.limits.maxSteps.toNat - st.progress.steps.toNat := by
  unfold turn at h
  dsimp only at h
  split at h
  · cases h
  · rename_i p' hcheck
    split at h
    · cases h
    · have hlt := checkpoint_lt hcheck
      cases h
      exact hlt

/-- Goes on turn after turn until one of them is the last. -/
def walk (op : Operator σ μ) (a : Alignment) (e : Errand) (st : Stand σ μ a) :
    Except Fault Output × Progress × Session σ μ :=
  match h : op.turn a e st with
  | .halted fault p s => (.error fault, p, s)
  | .completed step (.done output) p s => (.ok output, p, op.emit step s)
  | .completed step (.next place) p s =>
    have := turn_completed_lt h
    op.walk a e ⟨place, p, op.emit step s⟩
termination_by op.limits.maxSteps.toNat - st.progress.steps.toNat

/-- Checks the limits and the alignment before any register is touched, and gives the place of the
ingress. -/
def preflight (op : Operator σ μ) (a : Alignment) : Except Fault (Fin a.size) := do
  match op.limits.validate with
  | .error cause => .error (.limits cause)
  | .ok () =>
    a.validate op.foundry
    match a.entry? with
    | some place => .ok place
    | none => .error (.structural .missingIngress)

/-- What a run says at its end. -/
def closing (outcome : Except Fault Output) (steps : Nat) : Event :=
  match outcome with
  | .ok output => .runSucceeded steps output.size
  | .error fault => .runFaulted fault steps

/-- Checks a run and goes through it. -/
def travel (op : Operator σ μ) (a : Alignment) (e : Errand) (s : Session σ μ) :
    Except Fault Output × Progress × Session σ μ :=
  match op.preflight a with
  | .error fault => (.error fault, {}, s)
  | .ok place => op.walk a e ⟨place, {}, s⟩

/-- Says how a run ended and reports it. -/
def conclude (e : Errand) :
    Except Fault Output × Progress × Session σ μ → Report × Session σ μ
  | (outcome, p, s) =>
    let s := s.say (closing outcome p.steps.toNat)
    (⟨e.runId, outcome, p.registers, p.visited.toList, p.steps.toNat, s.now - e.started⟩, s)

/-- Runs an alignment on an order. -/
def run (op : Operator σ μ) (a : Alignment) (order : Order) (runId : RunId) (s : Session σ μ) :
    Report × Session σ μ :=
  let e : Errand := ⟨runId, order, s.now⟩
  conclude e (op.travel a e (s.say (.runOpened a.size)))

/-- Runs an alignment on an order and keeps only how it ended. -/
def operate (op : Operator σ μ) (a : Alignment) (order : Order) (runId : RunId)
    (s : Session σ μ) : Except Fault Output × Session σ μ :=
  let (report, s) := op.run a order runId s
  (report.outcome, s)

/-- The outline of an operator. -/
def outline (op : Operator σ μ) : Outline :=
  .record "Operator"
    [("foundry", .nat op.foundry.size), ("config", op.limits.outline),
      ("medium", .bool op.medium.isSome)] false

end Operator
end ApparatusGraph
