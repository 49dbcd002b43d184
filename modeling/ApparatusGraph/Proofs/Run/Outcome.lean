/-
# The outcome of a run, explained

A report explains its own outcome: what a run ended with can be checked against the registers
and the nodes that it reports.

| outcome | what the report shows |
| --- | --- |
| an output | the last node is an egress, and its registers hold the output |
| an unbound register | the register, unbound; the node, never visited |
| a missing output | the node that the last edge leads to, which replied without it |
| any fault that names a node | the node that the last edge leads to |

A node whose visit was complete was served, and stays served, as registers do not become
unbound (`Reaches.served`); so a node that lacks a register was not visited before.  A visit
that fails has written nothing, so what it lacked then is lacking in the report.
-/

import ApparatusGraph.Proofs.Run.Accounting
import ApparatusGraph.Proofs.Run.Path
import ApparatusGraph.Proofs.Run.Served

namespace ApparatusGraph

variable {σ μ : Type}

namespace Operator

variable {op : Operator σ μ} {a : Alignment} {e : Errand} {order : Order} {runId : RunId}
  {s t : Session σ μ} {steps : List Step} {st : Stand σ μ a} {p : Progress} {n : Node}
  {r : Registers} {fault : Fault}

/-! ## Visits -/

/-- The apparatus of a node, asked on what the node reads, replies without the var that a node must
write, the least such. -/
def Omits (op : Operator σ μ) (started : Nat) (s : Session σ μ) (n : Node) (r : Registers)
    (var : Var) : Prop :=
  ∃ said apparatus input s' branch record address,
    n.apparatus? = some apparatus ∧
    (∀ var, input.get? var = (n.sources.get? var).bind r.read) ∧
    n.Replies op.foundry (op.deadline started) input
      ((s.sayAll said).invoke apparatus input) s' branch record ∧
    (n.sinks branch).Least (fun var _ =>
      record.get? var = none ∧ (n.outputContract op.foundry branch).allowsAbsent var = false)
      var address

/-- A site that is left with a fault was answered without an output. -/
theorem Visits.omits_of_leave (hsound : a.Sound op.foundry) (hn : n ∈ a.operations)
    {events said : List Event} {site : Site σ} {input : Record} {answer : Answer} {r' : Registers}
    (enter : n.enter op.foundry a e.order p.registers = (events, .ok (.calls site input), r))
    (await : (site.call input).await (op.deadline e.started)
      ((s.sayAll events).invoke site.apparatus input) = (.answered (.ok answer), t))
    (leave : site.leave a input answer r = (said, .error fault, r')) :
    ∃ var, fault = .missingOutput n.label var ∧ op.Omits e.started s n p.registers var := by
  obtain ⟨rfl, hserves, hinput⟩ := hsound.enter_calls hn enter
  obtain ⟨hreplies, hcontract⟩ := (Node.honours_of_enter enter).replies await
  obtain ⟨hedge, hsinks⟩ := hserves.exit await
  obtain ⟨place, hplace⟩ := hsound.resolve hn (Node.edge_mem_successors hedge)
  unfold Site.leave at leave
  dsimp only at leave
  split at leave
  · rename_i reason r₁ hscatter
    cases leave
    obtain ⟨var, address, rfl, hleast⟩ := Registers.scatter_least hscatter
    rw [hcontract, ← hsinks] at hleast
    exact ⟨var, by rw [hserves.node], events, site.apparatus, input, t, answer.branch, answer.record,
      address, hserves.apparatus, hinput, hreplies, hleast⟩
  · rw [Alignment.follow_ok hplace] at leave
    cases leave

/-- **A visit that fails says why.** -/
theorem Visits.explained (hsound : a.Sound op.foundry) (hn : n ∈ a.operations)
    (h : op.Visits a e p n s (.error fault) r t) :
    (∃ var address, fault = .unboundRegister n.label address ∧
        n.sources.Least (fun var address => p.registers.read address = none ∧
          (n.inputContract op.foundry).allowsAbsent var = false) var address) ∨
      (∃ apparatus cause, fault = .apparatusFailure n.label apparatus cause ∧
        n.apparatus? = some apparatus) ∨
      (∃ var, fault = .missingOutput n.label var ∧ op.Omits e.started s n p.registers var) ∨
      fault.node? = none := by
  cases h with
  | refused enter => exact .inl (hsound.enter_least hn enter)
  | @interrupted events site input r why t enter await =>
    refine .inr (.inr (.inr ?_))
    cases why with
    | cancelled => rfl
    | timedOut => rfl
  | failed enter await =>
    obtain ⟨-, hserves, -⟩ := hsound.enter_calls hn enter
    exact .inr (.inl ⟨_, _, by rw [hserves.node], hserves.apparatus⟩)
  | left enter await leave =>
    exact .inr (.inr (.inl (Visits.omits_of_leave hsound hn enter await leave)))

/-- A complete visit had its node served, and leaves it served. -/
theorem Visits.served (hsound : a.Sound op.foundry) (hn : n ∈ a.operations) {v : Visit a}
    (h : op.Visits a e p n s (.ok v) r t) : n.Served op.foundry r := by
  rw [(h.completes hsound hn).registers]
  refine Node.Served.writeAll ?_ _
  cases h with
  | passed enter => exact hsound.served_of_enter hn enter
  | left enter await leave => exact hsound.served_of_enter hn enter

/-- What names a node in a fault of a visit is the label of the node. -/
theorem Visits.fault_node (hsound : a.Sound op.foundry) (hn : n ∈ a.operations)
    (h : op.Visits a e p n s (.error fault) r t) {node : String} (hnode : fault.node? = some node) :
    node = n.label := by
  obtain ⟨_, _, rfl, -⟩ | ⟨_, _, rfl, -⟩ | ⟨_, rfl, -⟩ | hnone := h.explained hsound hn
  · exact (Option.some.inj hnode).symm
  · exact (Option.some.inj hnode).symm
  · exact (Option.some.inj hnode).symm
  · rw [hnone] at hnode
    cases hnode

/-- A complete visit of an egress reads its result and writes nothing. -/
theorem Visits.egress {x : Egress} {v : Visit a}
    (h : op.Visits a e p (.egress x) s (.ok v) r t) :
    x.visit a p.registers = .ok v ∧ r = p.registers := by
  cases h with
  | passed enter =>
    dsimp only [Node.enter] at enter
    cases hvisit : x.visit a p.registers with
    | error reason =>
      rw [hvisit] at enter
      cases enter
    | ok w =>
      rw [hvisit] at enter
      cases enter
      exact ⟨rfl, rfl⟩
  | left enter await leave =>
    obtain ⟨p, hp, -⟩ | ⟨sw, hsw, -⟩ := Node.site_of_enter enter
    · cases hp
    · cases hsw

/-- The visit of an egress outputs what the registers hold. -/
theorem Visits.output {x : Egress} {v : Visit a} {output : Output}
    (h : op.Visits a e p (.egress x) s (.ok v) r t) (honward : v.onward = .done output) :
    output.names = x.result.names ∧ ∀ field address, x.result.get? field = some address →
      ∃ param, r.read address = some param ∧ output.get? field = some param.value := by
  obtain ⟨hvisit, rfl⟩ := h.egress
  unfold Egress.visit at hvisit
  split at hvisit
  · cases hvisit
  rename_i hfind
  cases hvisit
  cases honward
  have hbound {field : String} {address : Address} (hfield : x.result.get? field = some address) :
      ∃ param, p.registers.read address = some param := by
    refine Option.ne_none_iff_exists'.1 fun hread => ?_
    exact Named.not_of_find?_eq_none Egress.lacks_iff hfind hfield ⟨hread, rfl⟩
  refine ⟨Named.names_filterMap fun field address hfield => ?_, fun field address hfield => ?_⟩
  · obtain ⟨param, hparam⟩ := hbound hfield
    rw [hparam]
    rfl
  · obtain ⟨param, hparam⟩ := hbound hfield
    refine ⟨param, hparam, ?_⟩
    rw [Named.get?_filterMap, hfield, Option.bind_some, hparam]
    rfl

/-! ## Runs -/

/-- **What was visited stays served.** -/
theorem Reaches.served (h : op.Reaches a order runId s steps st) :
    ∀ step ∈ steps, ∃ place, step.node = (a.node place).waypoint ∧
      (a.node place).Served op.foundry st.progress.registers := by
  have hsound := h.sound
  obtain ⟨entry, -, htrail⟩ := h
  induction htrail with
  | entry => exact fun step hstep => absurd hstep List.not_mem_nil
  | @onward steps st' last next p s' trail turn ih =>
    have hnode := turn_completed_node turn
    obtain ⟨admitted, v, registers, after, check, hvisit, -, -, rfl, -⟩ := turn_completed turn
    obtain ⟨-, -, rfl⟩ := checkpoint_ok check
    intro step hstep
    rcases List.mem_append.1 hstep with hstep | hstep
    · obtain ⟨place, hplace, hserved⟩ := ih step hstep
      refine ⟨place, hplace, ?_⟩
      show (a.node place).Served op.foundry registers
      rw [(hvisit.completes hsound (a.node_mem _)).registers]
      exact hserved.writeAll _
    · obtain rfl := List.mem_singleton.1 hstep
      exact ⟨st'.place, hnode, hvisit.served hsound (a.node_mem _)⟩

/-- A node that lacks a register was not visited before. -/
theorem Reaches.not_visited (h : op.Reaches a order runId s steps st) {name : String}
    (hname : (a.node st.place).name? = some name) {var : Var} {address : Address}
    (hsource : (a.node st.place).sources.get? var = some address)
    (hread : st.progress.registers.read address = none)
    (hneeds : ((a.node st.place).inputContract op.foundry).allowsAbsent var = false) :
    ∀ w ∈ st.progress.visited.toList, w.name? ≠ some name := by
  intro w hw hwname
  obtain ⟨step, hstep, rfl⟩ : ∃ step ∈ steps, step.node = w := by
    rw [h.visited] at hw
    exact List.mem_map.1 hw
  obtain ⟨place, hplace, hserved⟩ := h.served step hstep
  rw [hplace, Node.waypoint_name] at hwname
  -- Names are unique, so the node that was visited is this one, and was served.
  rw [h.sound.eq_of_name (a.node_mem place) (a.node_mem st.place) hwname hname] at hserved
  exact absurd (hserved var address hsource hread) (Bool.eq_false_iff.1 hneeds)

/-- A run that has made a step stands where the edge leads that this step took. -/
theorem Reaches.arrives (h : op.Reaches a order runId s steps st) (hne : steps ≠ []) :
    (∃ before step n, steps = before ++ [step] ∧ a.nodeOf? step.node = some n ∧
      n.edge? step.branch = some (a.node st.place).label) ∧
    a.find? (a.node st.place).label = some (a.node st.place) ∧
    (a.node st.place).name? = some (a.node st.place).label := by
  obtain ⟨hnil, -⟩ | ⟨before, step, n, target, hsteps, hn, hedge, hplace⟩ := h.place
  · exact absurd hnil hne
  · have hname := Alignment.name_of_resolve hplace
    have hlabel : (a.node st.place).label = target := by
      unfold Node.label
      rw [hname]
      rfl
    rw [hlabel]
    exact ⟨⟨before, step, n, hsteps, hn, hedge⟩, h.sound.find_node hplace, hname⟩

/-- A run stands past its first step when a visit fails. -/
theorem Reaches.ne_nil_of_failed (h : op.Reaches a order runId s steps st)
    (visit : op.Visits a e p (a.node st.place) st.session (.error fault) r t) : steps ≠ [] := by
  obtain ⟨-, i, hi⟩ | ⟨hne, -⟩ := h.node
  · exact absurd hi (visit.ne_ingress h.sound (a.node_mem _) i)
  · exact hne

/-- A run stands past its first step when the limit on steps stops it. -/
theorem Reaches.ne_nil_of_limit (h : op.Reaches a order runId s steps st)
    (hlimit : op.limits.maxSteps ≤ st.progress.steps) : steps ≠ [] := by
  rintro rfl
  obtain ⟨place, hpreflight, -⟩ := id h
  have hvalid := (preflight_ok hpreflight).1
  have hzero : op.limits.maxSteps = 0 := by
    have hle := UInt64.le_iff_toNat_le.1 hlimit
    rw [h.length_steps, List.length_nil] at hle
    exact UInt64.toNat_inj.1 (Nat.le_zero.1 hle)
  unfold Limits.validate at hvalid
  rw [if_pos hzero] at hvalid
  cases hvalid

/-- What a report shows of its outcome. -/
structure Explained (op : Operator σ μ) (a : Alignment) (order : Order) (runId : RunId)
    (s : Session σ μ) (steps : List Step) (report : Report) : Prop where
  output : ∀ output, report.outcome = .ok output →
    ∃ x before, .egress x ∈ a.operations ∧ report.visited = before ++ [.egress x.name] ∧
      output.names = x.result.names ∧ ∀ field address, x.result.get? field = some address →
        ∃ param, report.registers.read address = some param ∧ output.get? field = some param.value
  unbound : ∀ node address, report.outcome = .error (.unboundRegister node address) →
    (∀ w ∈ report.visited, w.name? ≠ some node) ∧ report.registers.read address = none ∧
      ∃ n var, a.find? node = some n ∧ n.sources.Least (fun var address =>
        report.registers.read address = none ∧
          (n.inputContract op.foundry).allowsAbsent var = false) var address
  missing : ∀ node var, report.outcome = .error (.missingOutput node var) →
    ∃ n st, a.find? node = some n ∧ op.Reaches a order runId s steps st ∧ a.node st.place = n ∧
      op.Omits s.now st.session n report.registers var
  apparatus : ∀ node apparatus cause,
    report.outcome = .error (.apparatusFailure node apparatus cause) →
      ∃ n, a.find? node = some n ∧ n.apparatus? = some apparatus
  node : op.Admits a → ∀ fault node, report.outcome = .error fault → fault.node? = some node →
    ∃ before step n, steps = before ++ [step] ∧ a.nodeOf? step.node = some n ∧
      n.edge? step.branch = some node

/-- A run that is refused is explained by what refused it. -/
theorem explained_refused (preflight : op.preflight a = .error fault) (t : Session σ μ) :
    op.Explained a order runId s [] (conclude e (.error fault, {}, t)).1 := by
  have hkind := preflight_error_kind preflight
  refine {
    output := ?output, unbound := ?unbound, missing := ?missing, apparatus := ?apparatus,
    node := ?node }
  case output => rintro output ⟨⟩
  case unbound =>
    rintro node address ⟨⟩
    exact absurd (by decide : FaultKind.unboundRegister ∈ turnKinds) hkind
  case missing =>
    rintro node var ⟨⟩
    exact absurd (by decide : FaultKind.missingOutput ∈ turnKinds) hkind
  case apparatus =>
    rintro node apparatus cause ⟨⟩
    exact absurd (by decide : FaultKind.apparatusFailure ∈ turnKinds) hkind
  case node =>
    intro hadmits
    obtain ⟨place, hplace⟩ := preflight_ok_iff.2 hadmits
    rw [preflight] at hplace
    cases hplace

/-- A run that a check stops is explained by the check. -/
theorem explained_stopped (reach : op.Reaches a order runId s steps st)
    (check : op.checkpoint s.now (a.node st.place) st.progress st.session = .error fault)
    (t : Session σ μ) :
    op.Explained a order runId s steps (conclude e (.error fault, st.progress, t)).1 := by
  refine {
    output := ?output, unbound := ?unbound, missing := ?missing, apparatus := ?apparatus,
    node := ?node }
  case output => rintro output ⟨⟩
  case unbound =>
    rintro node address ⟨⟩
    obtain hfault | hfault | ⟨-, hfault⟩ := checkpoint_error check <;> cases hfault
  case missing =>
    rintro node var ⟨⟩
    obtain hfault | hfault | ⟨-, hfault⟩ := checkpoint_error check <;> cases hfault
  case apparatus =>
    rintro node apparatus cause ⟨⟩
    obtain hfault | hfault | ⟨-, hfault⟩ := checkpoint_error check <;> cases hfault
  case node =>
    rintro - other node ⟨⟩ hnode
    obtain rfl | rfl | ⟨hlimit, rfl⟩ := checkpoint_error check
    · cases hnode
    · cases hnode
    · cases hnode
      exact (reach.arrives (reach.ne_nil_of_limit hlimit)).1

/-- A run that ends in a visit is explained by what the visit lacked. -/
theorem explained_failed {admitted : Progress} (reach : op.Reaches a order runId s steps st)
    (check : op.checkpoint s.now (a.node st.place) st.progress st.session = .ok admitted)
    (visit : op.Visits a ⟨runId, order, s.now⟩ admitted (a.node st.place) st.session
      (.error fault) r t) :
    op.Explained a order runId s steps
      (conclude e (.error fault, { admitted with registers := r }, t)).1 := by
  obtain ⟨-, -, rfl⟩ := checkpoint_ok check
  obtain ⟨rfl, -⟩ := visit.fails reach.sound (a.node_mem _)
  obtain ⟨hedge, hfind, hname⟩ := reach.arrives (reach.ne_nil_of_failed visit)
  have hwhy := visit.explained reach.sound (a.node_mem _)
  refine {
    output := ?output, unbound := ?unbound, missing := ?missing, apparatus := ?apparatus,
    node := ?node }
  case output => rintro output ⟨⟩
  case unbound =>
    rintro node address ⟨⟩
    obtain ⟨var, other, hfault, hleast⟩ | ⟨_, _, hfault, -⟩ | ⟨_, hfault, -⟩ | hfault := hwhy <;>
      cases hfault
    exact ⟨reach.not_visited hname hleast.entry hleast.holds.1 hleast.holds.2, hleast.holds.1, _,
      var, hfind, hleast⟩
  case missing =>
    rintro node var ⟨⟩
    obtain ⟨_, _, hfault, -⟩ | ⟨_, _, hfault, -⟩ | ⟨_, hfault, homits⟩ | hfault := hwhy <;>
      cases hfault
    exact ⟨_, st, hfind, reach, rfl, homits⟩
  case apparatus =>
    rintro node apparatus cause ⟨⟩
    obtain ⟨_, _, hfault, -⟩ | ⟨_, _, hfault, happaratus⟩ | ⟨_, hfault, -⟩ | hfault := hwhy <;>
      cases hfault
    exact ⟨_, hfind, happaratus⟩
  case node =>
    rintro - other node ⟨⟩ hnode
    obtain rfl := visit.fault_node reach.sound (a.node_mem _) hnode
    exact hedge

/-- A run that arrives is explained by what its egress read. -/
theorem explained_arrived {step : Step} {output : Output} {p : Progress}
    (reach : op.Reaches a order runId s steps st)
    (turn : op.turn a ⟨runId, order, s.now⟩ st = .completed step (.done output) p t)
    (t' : Session σ μ) :
    op.Explained a order runId s (steps ++ [step]) (conclude e (.ok output, p, t')).1 := by
  have hnode := turn_completed_node turn
  have hvisited := turn_completed_visited turn
  obtain ⟨x, hx⟩ := turn_completed_ends reach.sound turn
  obtain ⟨admitted, v, registers, after, -, hvisit, -, honward, rfl, -⟩ := turn_completed turn
  rw [hx] at hvisit
  obtain ⟨hnames, hvalues⟩ := hvisit.output honward.symm
  refine {
    output := ?output, unbound := ?unbound, missing := ?missing, apparatus := ?apparatus,
    node := ?node }
  case output =>
    rintro other ⟨⟩
    have hlast : step.node = .egress x.name := by
      rw [hnode, hx]
      rfl
    rw [hlast] at hvisited
    exact ⟨x, st.progress.visited.toList, hx ▸ a.node_mem st.place, hvisited, hnames, hvalues⟩
  case unbound => rintro node address ⟨⟩
  case missing => rintro node var ⟨⟩
  case apparatus => rintro node apparatus cause ⟨⟩
  case node => rintro - other node ⟨⟩

/-- Each way that a run can go is explained. -/
theorem Runs.explained {x : Report × Session σ μ} (h : op.Runs a order runId s steps x) :
    op.Explained a order runId s steps x.1 := by
  cases h with
  | refused preflight => exact explained_refused preflight _
  | stopped reach check => exact explained_stopped reach check _
  | failed reach check visit => exact explained_failed reach check visit
  | arrived reach turn => exact explained_arrived reach turn _

/-- **The outcome of a run is explained by its report.**  An output has the fields of the egress
that was visited last, with the values that the registers hold.  A node that could not be given an
input was not visited before, and the register is unbound: it is that of the least var that is
unbound and may not be absent.  A node that did not give an output replied without it, the least
that may not be absent, under the branch of its verdict.  And a fault that names a node, once the
run has begun, names the one that the edge taken last leads to.  The steps are those of a transcript
of the run, whatever its own medium is. -/
theorem outcome_explained (op : Operator σ μ) (a : Alignment) (order : Order) (runId : RunId)
    (s : Session σ μ) :
    let report := (op.run a order runId s).1
    let steps := (op.transcribed.run a order runId (s.keeping #[])).2.kept.toList
    report.visited = steps.map (·.node) ∧
    (∀ output, report.outcome = .ok output →
      ∃ x before, .egress x ∈ a.operations ∧ report.visited = before ++ [.egress x.name] ∧
        output.names = x.result.names ∧ ∀ field address, x.result.get? field = some address →
          ∃ param, report.registers.read address = some param ∧
            output.get? field = some param.value) ∧
    (∀ node address, report.outcome = .error (.unboundRegister node address) →
      (∀ w ∈ report.visited, w.name? ≠ some node) ∧ report.registers.read address = none ∧
        ∃ n var, a.find? node = some n ∧ n.sources.Least (fun var address =>
          report.registers.read address = none ∧
            (n.inputContract op.foundry).allowsAbsent var = false) var address) ∧
    (∀ node var, report.outcome = .error (.missingOutput node var) →
      ∃ n st, a.find? node = some n ∧
        op.transcribed.Reaches a order runId (s.keeping #[]) steps st ∧ a.node st.place = n ∧
          op.transcribed.Omits s.now st.session n report.registers var) ∧
    (∀ node apparatus cause, report.outcome = .error (.apparatusFailure node apparatus cause) →
      ∃ n, a.find? node = some n ∧ n.apparatus? = some apparatus) ∧
    (op.Admits a → ∀ fault node, report.outcome = .error fault → fault.node? = some node →
      ∃ before step n, steps = before ++ [step] ∧ a.nodeOf? step.node = some n ∧
        n.edge? step.branch = some node) := by
  obtain ⟨hreport, -⟩ := op.run_transcribed a order runId s
  obtain ⟨steps, hruns⟩ := op.transcribed.exists_runs a order runId (s.keeping #[])
  dsimp only
  rw [hreport, hruns.kept_transcript]
  have h := hruns.explained
  exact ⟨hruns.visited, h.output, h.unbound, h.missing, h.apparatus, h.node⟩

end Operator
end ApparatusGraph
