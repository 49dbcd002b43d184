/-
# Runs side by side

Several runs of one alignment that share an operator, a token, a clock and what the
callables store.  They begin in order, each going on until it pauses or ends.  After
that the clock moves to the first moment at which a paused run has something to look
at, and every such run looks, in order: at the token, at the deadline, at the end of
its pause.

How many rounds that takes depends on the callables, so the number of rounds is given.
-/

import ApparatusGraph.Run.Operator

namespace ApparatusGraph

/-- Where one of several runs stands. -/
inductive Stage (σ : Type) (a : Alignment) where
  | paused (site : Site σ) (place : Fin a.size) (input : Record) (began wake : Nat)
      (next : Call σ Answer)
  | ended (outcome : Except Fault Output) (time : Nat)

/-- One of several runs: what stays the same, how far it has come, and where it stands. -/
structure Runner (σ : Type) (a : Alignment) where
  errand : Errand
  progress : Progress := {}
  stage : Stage σ a

namespace Operator

variable {σ μ : Type}

/-- What a call that has been gone on with comes to: an answer, or a pause and what comes after. -/
def settleCall {a : Alignment} (e : Errand) (p : Progress) (place : Fin a.size) (site : Site σ)
    (input : Record) (began : Nat)
    (answered : Visit a → Registers → Session σ μ → Runner σ a × Session σ μ)
    (call : Call σ Answer) (s : Session σ μ) : Runner σ a × Session σ μ :=
  match call.poll s with
  | (.pausing ms next, s) =>
    (⟨e, p, .paused site place input began (s.now + ms) next⟩, s)
  | (.answered (.error cause), s) =>
    (⟨e, p, .ended (.error (.apparatusFailure site.node site.apparatus cause)) s.now⟩, s)
  | (.answered (.ok answer), s) =>
    let (events, result, registers) := site.leave a input answer p.registers
    let s := s.sayAll events
    match result with
    | .error fault => (⟨e, { p with registers }, .ended (.error fault) s.now⟩, s)
    | .ok v => answered v registers s

/-- The session after a complete visit was said and handed to the medium. -/
def announce {a : Alignment} (op : Operator σ μ) (e : Errand) (steps : UInt64) (began : Nat)
    (n : Node) (v : Visit a) (s : Session σ μ) : Session σ μ :=
  op.emit (stepOf e steps began s.now n v) (s.say (.transition steps.toNat n.waypoint v.branch))

/-- Goes on from a place until the run pauses or ends. -/
def proceed {a : Alignment} (op : Operator σ μ) (e : Errand) (place : Fin a.size) (p : Progress)
    (s : Session σ μ) : Runner σ a × Session σ μ :=
  match h : op.checkpoint e.started (a.node place) p s with
  | .error fault => (⟨e, p, .ended (.error fault) s.now⟩, s)
  | .ok p =>
    have := checkpoint_lt h
    let n := a.node place
    let began := s.now
    let onward (v : Visit a) (r : Registers) (s : Session σ μ) : Runner σ a × Session σ μ :=
      let s := op.announce e p.steps began n v s
      match v.onward with
      | .next place => op.proceed e place (p.past n r) s
      | .done output => (⟨e, p.past n r, .ended (.ok output) s.now⟩, s)
    let (events, entered, registers) := n.enter op.foundry a e.order p.registers
    let s := s.sayAll events
    match entered with
    | .error fault => (⟨e, { p with registers }, .ended (.error fault) s.now⟩, s)
    | .ok (.visited v) => onward v registers s
    | .ok (.calls site input) =>
      settleCall e p place site input began onward (site.call input)
        (s.invoke site.apparatus input)
termination_by op.limits.maxSteps.toNat - p.steps.toNat

/-- Goes on with the call of a run that was paused. -/
def resume {a : Alignment} (op : Operator σ μ) (r : Runner σ a) (site : Site σ)
    (place : Fin a.size) (input : Record) (began : Nat) (next : Call σ Answer)
    (s : Session σ μ) : Runner σ a × Session σ μ :=
  let n := a.node place
  settleCall r.errand r.progress place site input began
    (fun v registers s =>
      let p := r.progress.past n registers
      let s := op.announce r.errand p.steps began n v s
      match v.onward with
      | .next place => op.proceed r.errand place p s
      | .done output => (⟨r.errand, p, .ended (.ok output) s.now⟩, s))
    next s

/-- The first moment at which a run has something to look at; none when it has ended. -/
def nextTime {a : Alignment} (op : Operator σ μ) (s : Session σ μ) (r : Runner σ a) :
    Option Nat :=
  match r.stage with
  | .ended .. => none
  | .paused _ _ _ _ wake _ =>
    let first := match op.deadline r.errand.started with
      | some d => min d wake
      | none => wake
    some (match s.tokenTime with
      | some t => min t first
      | none => first)

/-- Lets a run look at what has come at the moment `time`. -/
def look {a : Alignment} (op : Operator σ μ) (time : Nat) (r : Runner σ a) (s : Session σ μ) :
    Runner σ a × Session σ μ :=
  match r.stage with
  | .ended .. => (r, s)
  | .paused site place input began wake next =>
    if s.cancelled then
      ({ r with stage := .ended (.error (.cancelled r.progress.steps.toNat)) s.now }, s)
    else if (op.deadline r.errand.started).any (· ≤ time) then
      ({ r with stage := .ended (.error (op.timeoutFault r.errand.started s.now)) s.now }, s)
    else if wake ≤ time then op.resume r site place input began next s
    else (r, s)

/-- Lets every run look, in order. -/
def lookAll {a : Alignment} (op : Operator σ μ) (time : Nat) :
    List (Runner σ a) → Session σ μ → List (Runner σ a) × Session σ μ
  | [], s => ([], s)
  | r :: rest, s =>
    let (r, s) := op.look time r s
    let (rest, s) := op.lookAll time rest s
    (r :: rest, s)

/-- Goes on for a number of rounds. -/
def rounds {a : Alignment} (op : Operator σ μ) : Nat → List (Runner σ a) → Session σ μ →
    List (Runner σ a) × Session σ μ
  | 0, rs, s => (rs, s)
  | n + 1, rs, s =>
    match (rs.filterMap (op.nextTime s)).min? with
    | none => (rs, s)
    | some t =>
      let s := s.goTo t
      let s := if s.cancelAt.any (· ≤ s.now) then { s with cancelled := true } else s
      let (rs, s) := op.lookAll s.now rs s
      op.rounds n rs s

/-- Begins a run for each order. -/
def beginAll (op : Operator σ μ) (a : Alignment) : List (Order × RunId) → Session σ μ →
    List (Runner σ a) × Session σ μ
  | [], s => ([], s)
  | (order, runId) :: rest, s =>
    let e : Errand := ⟨runId, order, s.now⟩
    let (r, s) := match op.preflight a with
      | .error fault => (⟨e, {}, .ended (.error fault) s.now⟩, s)
      | .ok place => op.proceed e place {} s
    let (rest, s) := op.beginAll a rest s
    (r :: rest, s)

/-- The report of one of several runs; none while it is paused. -/
def reportOf {a : Alignment} (r : Runner σ a) : Option Report :=
  match r.stage with
  | .ended outcome time =>
    some ⟨r.errand.runId, outcome, r.progress.registers, r.progress.visited.toList,
      r.progress.steps.toNat, time - r.errand.started⟩
  | .paused .. => none

/-- Runs an alignment on several orders side by side, for at most a number of rounds; a run that
is not over by then has no report. -/
def runTogether (op : Operator σ μ) (a : Alignment) (orders : List (Order × RunId)) (most : Nat)
    (s : Session σ μ) : List (Option Report) × Session σ μ :=
  let (rs, s) := op.beginAll a orders s
  let (rs, s) := op.rounds most rs s
  (rs.map reportOf, s)

end Operator
end ApparatusGraph
