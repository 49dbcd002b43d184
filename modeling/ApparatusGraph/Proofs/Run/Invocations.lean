/-
# Each call is made once

A callable has effects and a price, so it matters that a run calls it when a visit of its
node says so and at no other time.  The ledger of a run, which callables that note what they
are asked keep as well (`Operator.run_journaled`), has one call for each complete visit of a
process or a switch, in order, and at most one more:

| end | one more call |
| --- | --- |
| refused before the first turn, or stopped by a check | no |
| a register is not bound | no |
| the apparatus failed, an output is missing, the call was cut short | yes |
| an output | no |

A visit calls after its inputs were gathered and before anything else can fail, so whether
there is one more is a matter of where the last visit failed (`Visits.calls_error`).  What one
visit adds is `Visits.calls_ok`, what a trail adds `Reaches.calls`.
-/

import ApparatusGraph.Proofs.Run.Calls
import ApparatusGraph.Proofs.Run.Noting
import ApparatusGraph.Proofs.Run.Path
import ApparatusGraph.Proofs.Run.Replay

namespace ApparatusGraph

variable {σ μ : Type}

/-- The call that the visit of a step has made: of the apparatus of its node, on the inputs of the
step. -/
def Alignment.callOf (a : Alignment) (step : Step) : Option (String × Record) :=
  (a.nodeOf? step.node).bind fun n => n.apparatus?.map (·, step.inputs)

/-- A report says that its run ended within a call: the apparatus failed, an output is missing, or
the run was stopped in a visit that is counted and not complete. -/
def Report.BreaksOff (r : Report) : Prop :=
  ∃ fault, r.outcome = .error fault ∧
    (fault.kind ∈ [.apparatusFailure, .missingOutput] ∨
      fault.kind ∈ [.cancelled, .timeoutExceeded] ∧ r.steps = r.visited.length + 1)

namespace Operator

variable {op : Operator σ μ} {a : Alignment} {e : Errand} {order : Order} {runId : RunId}
  {s t : Session σ μ} {steps : List Step} {st : Stand σ μ a} {p : Progress} {n : Node}
  {r : Registers}

/-! ## One visit -/

/-- A node that is passed without a call has no apparatus. -/
theorem apparatus_of_passed (hsound : a.Sound op.foundry) (hn : n ∈ a.operations)
    {events : List Event} {v : Visit a} {o : Order} {r' : Registers}
    (h : n.enter op.foundry a o r = (events, .ok (.visited v), r')) : n.apparatus? = none := by
  obtain ⟨i, place, rfl, -, -⟩ | ⟨site, -, heq⟩ | ⟨x, rfl, -⟩ := hsound.enter hn o r
  · rfl
  · rw [heq] at h
    exact absurd h site.enter_ne_visited
  · rfl

/-- **A complete visit calls the apparatus of its node once,** on the inputs that it keeps. -/
theorem Visits.calls_ok (hsound : a.Sound op.foundry) (hn : n ∈ a.operations) {v : Visit a}
    (h : op.Visits a e p n s (.ok v) r t) :
    t.calls = s.calls ++ (n.apparatus?.map (·, v.inputs)).toList := by
  cases h with
  | passed enter =>
    rw [apparatus_of_passed hsound hn enter, Session.calls_eq_of_bare (Session.bare_sayAll _ _)]
    exact (List.append_nil _).symm
  | left enter await leave =>
    obtain ⟨-, hserves, -⟩ := hsound.enter_calls hn enter
    obtain ⟨hinputs, -, -⟩ := Site.leave_visit leave
    rw [Session.calls_eq_of_bare (Session.bare_sayAll _ _),
      Session.calls_of_push (invocations_of_await await), hserves.apparatus, hinputs]
    rfl

/-- A visit of a node comes to a call of its apparatus: its inputs can be gathered. -/
def Asks (op : Operator σ μ) (a : Alignment) (o : Order) (r : Registers) (n : Node)
    (call : String × Record) : Prop :=
  ∃ events site r', n.enter op.foundry a o r = (events, .ok (.calls site call.2), r') ∧
    site.apparatus = call.1

/-- A visit comes to one call at most. -/
theorem Asks.eq {o : Order} {call other : String × Record} (h : op.Asks a o r n call)
    (h' : op.Asks a o r n other) : call = other := by
  obtain ⟨events, site, r', henter, hsite⟩ := h
  obtain ⟨events', site', r'', henter', hsite'⟩ := h'
  rw [henter] at henter'
  have hcalls := Except.ok.inj (Prod.mk.inj (Prod.mk.inj henter').2).1
  obtain ⟨rfl, hinput⟩ := Entered.calls.inj hcalls
  exact Prod.ext (hsite.symm.trans hsite') hinput

/-- **A visit that fails has made a call exactly when its inputs could be gathered,** and then the
fault is none of a register. -/
theorem Visits.calls_error (hsound : a.Sound op.foundry) (hn : n ∈ a.operations) {fault : Fault}
    (h : op.Visits a e p n s (.error fault) r t) :
    (fault.kind = .unboundRegister ∧ (∀ call, ¬op.Asks a e.order p.registers n call) ∧
        t.calls = s.calls) ∨
      (fault.kind ∈ [.apparatusFailure, .missingOutput] ∨
          fault.kind ∈ [.cancelled, .timeoutExceeded]) ∧
        ∃ call, op.Asks a e.order p.registers n call ∧ t.calls = s.calls ++ [call] := by
  have hcall {events : List Event} {site : Site σ} {input : Record} {r' : Registers}
      {ended : Awaited Answer} {t : Session σ μ}
      (enter : n.enter op.foundry a e.order p.registers = (events, .ok (.calls site input), r'))
      (await : (site.call input).await (op.deadline e.started)
        ((s.sayAll events).invoke site.apparatus input) = (ended, t)) :
      ∃ call, op.Asks a e.order p.registers n call ∧ t.calls = s.calls ++ [call] :=
    ⟨(site.apparatus, input), ⟨events, site, r', enter, rfl⟩,
      Session.calls_of_push (invocations_of_await await)⟩
  cases h with
  | refused enter =>
    obtain ⟨-, address, rfl⟩ := hsound.enter_error hn enter
    refine .inl ⟨rfl, ?_, Session.calls_eq_of_bare (Session.bare_sayAll _ _)⟩
    rintro call ⟨events, site, r', henter, -⟩
    rw [enter] at henter
    cases henter
  | @interrupted events site input r' why t enter await =>
    refine .inr ⟨.inr ?_, hcall enter await⟩
    cases why with
    | cancelled => simp [interruptionFault, Fault.kind]
    | timedOut => simp [interruptionFault, timeoutFault, Fault.kind]
  | failed enter await => exact .inr ⟨.inl List.mem_cons_self, hcall enter await⟩
  | left enter await leave =>
    obtain ⟨-, hserves, -⟩ := hsound.enter_calls hn enter
    obtain ⟨-, var, rfl⟩ := hsound.leave_error hn hserves await leave
    obtain ⟨call, hasks, hcalls⟩ := hcall enter await
    exact .inr ⟨.inl (List.mem_cons_of_mem _ List.mem_cons_self), call, hasks,
      (Session.calls_eq_of_bare (Session.bare_sayAll _ _)).trans hcalls⟩

/-! ## Turns in a row -/

/-- A turn that completes a visit adds the call of its step. -/
theorem turn_completed_calls (hsound : a.Sound op.foundry) {step : Step} {onward : Onward a}
    (h : op.turn a e st = .completed step onward p t)
    (hst : st.session.calls = s.calls ++ steps.filterMap a.callOf) :
    (op.emit step t).calls = s.calls ++ (steps ++ [step]).filterMap a.callOf := by
  have hnode := turn_completed_node h
  obtain ⟨admitted, v, registers, s', -, hvisit, rfl, -, -, rfl⟩ := turn_completed h
  have hcalls := hvisit.calls_ok hsound (a.node_mem st.place)
  have hcall : a.callOf (stepOf e admitted.steps st.session.now s'.now (a.node st.place) v) =
      (a.node st.place).apparatus?.map (·, v.inputs) := by
    unfold Alignment.callOf
    rw [hnode, hsound.nodeOf_node st.place]
    rfl
  rw [Session.calls_eq_of_bare (bare_emit _ _ _), List.filterMap_append, ← List.append_assoc, ← hst,
    List.filterMap_cons, hcall]
  refine hcalls.trans (congrArg (st.session.calls ++ ·) ?_)
  cases (a.node st.place).apparatus? <;> rfl

/-- **Between two nodes, a run has made the calls of its steps** and no others. -/
theorem Reaches.calls (h : op.Reaches a order runId s steps st) :
    st.session.calls = s.calls ++ steps.filterMap a.callOf := by
  have hsound := h.sound
  obtain ⟨place, -, htrail⟩ := h
  induction htrail with
  | entry => exact (List.append_nil _).symm
  | onward trail turn ih => exact turn_completed_calls hsound turn ih

/-- The first step of a path is that of the ingress, which calls nothing. -/
theorem Path.length_calls (h : op.Path a order runId s steps) :
    (steps.filterMap a.callOf).length ≤ steps.length - 1 := by
  cases steps with
  | nil => exact Nat.le_refl 0
  | cons first rest =>
    have hfirst : first.node = .ingress := (h.begins 0 first rfl).2 rfl
    have hnone : a.callOf first = none := by
      unfold Alignment.callOf
      rw [hfirst, Option.bind_eq_none_iff]
      intro n hn
      obtain ⟨i, rfl⟩ : ∃ i, n = .ingress i := by
        have hwaypoint : n.waypoint = .ingress := by simpa using List.find?_some hn
        refine Node.eq_ingress_of_name ?_
        rw [← n.waypoint_name, hwaypoint]
        rfl
      rfl
    rw [List.filterMap_cons_none hnone]
    exact List.length_filterMap_le _ _

/-! ## Runs -/

/-- After `steps` a run comes to a call and ends within that visit. -/
def EndsInCall (op : Operator σ μ) (a : Alignment) (order : Order) (runId : RunId)
    (s : Session σ μ) (steps : List Step) (call : String × Record) : Prop :=
  ∃ st p fault r t, op.Reaches a order runId s steps st ∧
    op.checkpoint s.now (a.node st.place) st.progress st.session = .ok p ∧
    op.Asks a order p.registers (a.node st.place) call ∧
    op.visit a ⟨runId, order, s.now⟩ p (a.node st.place) st.session = (.error fault, r, t)

/-- The calls of a run that ended within one: those of its steps, and that one. -/
theorem EndsInCall.calls {call : String × Record} (h : op.EndsInCall a order runId s steps call) :
    (op.run a order runId s).2.calls = s.calls ++ steps.filterMap a.callOf ++ [call] := by
  obtain ⟨st, p, fault, r, t, hreach, hcheck, hasks, hvisit⟩ := h
  have hvisits := op.visits_visit a ⟨runId, order, s.now⟩ p (a.node st.place) st.session
  rw [hvisit] at hvisits
  rw [← (Runs.failed hreach hcheck hvisits).eq_run, ← hreach.calls]
  obtain ⟨-, hnot, -⟩ | ⟨-, other, hother, hcalls⟩ :=
    hvisits.calls_error hreach.sound (a.node_mem _)
  · exact absurd hasks (hnot call)
  · rw [hasks.eq hother]
    exact hcalls

/-- How a run ended with respect to its calls: it made those of its steps, and `last` if it ended
within one. -/
structure Ledger (op : Operator σ μ) (a : Alignment) (order : Order) (runId : RunId)
    (s : Session σ μ) (steps : List Step) (x : Report × Session σ μ)
    (last : Option (String × Record)) : Prop where
  calls : x.2.calls = s.calls ++ steps.filterMap a.callOf ++ last.toList
  ends : ∀ call, last = some call → op.EndsInCall a order runId s steps call
  breaksOff : last.isSome = true ↔ x.1.BreaksOff

/-- Where the accounts agree, a run breaks off when its last visit is counted and not complete, for
another reason than a register. -/
theorem Accounts.breaksOff_iff {report : Report} (h : op.Accounts a order runId s report) :
    report.BreaksOff ↔ ∃ fault, report.outcome = .error fault ∧
      (fault.kind ∈ [.apparatusFailure, .missingOutput] ∨
        fault.kind ∈ [.cancelled, .timeoutExceeded]) ∧
      report.steps = report.visited.length + 1 := by
  constructor
  · rintro ⟨fault, hfault, hkind | ⟨hkind, hsteps⟩⟩
    · exact ⟨fault, hfault, .inl hkind, h.failed fault hfault (List.mem_cons_of_mem _ hkind)⟩
    · exact ⟨fault, hfault, .inr hkind, hsteps⟩
  · rintro ⟨fault, hfault, hkind | hkind, hsteps⟩
    · exact ⟨fault, hfault, .inl hkind⟩
    · exact ⟨fault, hfault, .inr ⟨hkind, hsteps⟩⟩

/-- A run that did not break off has made the calls of its steps. -/
theorem ledger_none {x : Report × Session σ μ}
    (hcalls : x.2.calls = s.calls ++ steps.filterMap a.callOf) (hnot : ¬x.1.BreaksOff) :
    op.Ledger a order runId s steps x none where
  calls := hcalls.trans (List.append_nil _).symm
  ends := by rintro call ⟨⟩
  breaksOff := ⟨fun h => (by cases h), fun h => absurd h hnot⟩

/-- **Each way that a run can go** makes the calls of its steps, and one more when it breaks off. -/
theorem Runs.ledger {x : Report × Session σ μ} (h : op.Runs a order runId s steps x) :
    ∃ last, op.Ledger a order runId s steps x last := by
  have haccounts := h.accounts
  -- Where all visits that are counted are complete, the run did not break off.
  have hnot (hsteps : x.1.steps = x.1.visited.length) : ¬x.1.BreaksOff := by
    rw [haccounts.breaksOff_iff]
    rintro ⟨fault, -, -, hmore⟩
    exact absurd (hsteps.symm.trans hmore) (Nat.succ_ne_self _).symm
  cases h with
  | refused preflight => exact ⟨none, ledger_none (List.append_nil _).symm (hnot rfl)⟩
  | stopped reach check => exact ⟨none, ledger_none reach.calls (hnot reach.steps_eq_visited)⟩
  | @failed steps st admitted fault registers t reach check visit =>
    obtain ⟨hkind, -, hcalls⟩ | ⟨hkind, call, hasks, hcalls⟩ :=
      visit.calls_error reach.sound (a.node_mem _)
    · refine ⟨none, ledger_none (hcalls.trans reach.calls) ?_⟩
      rintro ⟨other, ⟨⟩, hmem | ⟨hmem, -⟩⟩ <;> simp [hkind] at hmem
    · refine ⟨some call, ?_, ?_, ?_⟩
      · rw [← reach.calls]
        exact hcalls
      · rintro other ⟨⟩
        exact ⟨st, admitted, fault, registers, t, reach, check, hasks, visit.eq_visit⟩
      · refine ⟨fun _ => haccounts.breaksOff_iff.2 ⟨fault, rfl, hkind, ?_⟩, fun _ => rfl⟩
        have hcounted := (reach.counted check).1
        obtain ⟨-, -, rfl⟩ := checkpoint_ok check
        show _ = st.progress.visited.toList.length + 1
        rw [← reach.steps_eq_visited, reach.length_steps]
        exact hcounted
  | arrived reach turn =>
    refine ⟨none, ledger_none (turn_completed_calls reach.sound turn reach.calls) ?_⟩
    rintro ⟨fault, ⟨⟩, -⟩

/-- A run makes fewer calls than its limit allows visits: the ingress calls nothing. -/
theorem Ledger.length_le {x : Report × Session σ μ} {last : Option (String × Record)}
    (h : op.Ledger a order runId s steps x last) (hruns : op.Runs a order runId s steps x) :
    x.2.invocations.size ≤ s.invocations.size + (op.limits.maxSteps.toNat - 1) := by
  have haccounts := hruns.accounts
  have hbounded := haccounts.bounded
  have hleast := haccounts.least
  have hvisited : x.1.visited.length = steps.length := by rw [hruns.visited, List.length_map]
  have hsteps := hruns.path.length_calls
  have hlength := congrArg List.length h.calls
  rw [List.length_append, List.length_append, Session.length_calls, Session.length_calls] at hlength
  cases hlast : last with
  | none =>
    rw [hlast, Option.toList_none, List.length_nil] at hlength
    omega
  | some call =>
    -- The visit that broke off is counted, and so is that of the ingress before it.
    obtain ⟨fault, -, -, hmore⟩ := haccounts.breaksOff_iff.1 (h.breaksOff.1 (by rw [hlast]; rfl))
    have hpos := List.length_pos_iff.2 (hruns.ne_nil (by omega))
    rw [hlast, Option.toList_some, List.length_singleton] at hlength
    omega

/-- **Each call is made once, and none is made again.**  The calls of a run are those of its
complete visits, in order: of the apparatus of the node, on the inputs of the step.  One more
follows exactly when the run ended within a visit whose inputs were gathered, which its report
tells; at an unbound register and at the limit on steps there is none.  There are fewer calls than
the limit allows visits.  The steps are those of a transcript of the run, whatever its own medium
is.

The callables tell the same: where each of them first notes in a journal what it is asked, the run
is the same run, and the journal has the calls of the run, no fewer and no more. -/
theorem calls_exactly_once (op : Operator σ μ) (a : Alignment) (order : Order) (runId : RunId)
    (s : Session σ μ) :
    let (report, after) := op.run a order runId s
    let (noted, told) := op.journaled.run a order runId s.journaled
    let steps := (op.transcribed.run a order runId (s.keeping #[])).2.kept.toList
    noted = report ∧ told = after.journaled ∧ told.store.journal = after.calls ∧
    report.visited = steps.map (·.node) ∧
    (∀ step ∈ steps, ∃ n, a.nodeOf? step.node = some n ∧
      a.callOf step = n.apparatus?.map (·, step.inputs)) ∧
    (∃ last : Option (String × Record),
      after.calls = s.calls ++ steps.filterMap a.callOf ++ last.toList ∧
      (last.isSome = true ↔ report.BreaksOff) ∧
      ∀ call, last = some call ↔
        op.transcribed.EndsInCall a order runId (s.keeping #[]) steps call) ∧
    (∀ fault, report.outcome = .error fault →
      fault.kind ∈ [.unboundRegister, .stepLimitExceeded] →
        after.calls = s.calls ++ steps.filterMap a.callOf) ∧
    after.invocations.size ≤ s.invocations.size + (op.limits.maxSteps.toNat - 1) := by
  obtain ⟨hreport, hafter⟩ := op.run_transcribed a order runId s
  obtain ⟨steps, hruns⟩ := op.transcribed.exists_runs a order runId (s.keeping #[])
  obtain ⟨last, hledger⟩ := hruns.ledger
  have hcalls := (Session.calls_eq_of_bare hafter).trans hledger.calls
  dsimp only
  rw [op.run_journaled, hreport, hruns.kept_transcript, Session.invocations_eq_of_bare hafter]
  refine ⟨rfl, rfl, rfl, hruns.visited, fun step hstep => ?_,
    ⟨last, hcalls, hledger.breaksOff, fun call => ⟨hledger.ends call, fun hends => ?_⟩⟩,
    fun fault hfault hkind => ?_, hledger.length_le hruns⟩
  · obtain ⟨i, hi⟩ := List.getElem?_of_mem hstep
    obtain ⟨n, hn, -⟩ := hruns.replayed.inputs i step hi
    refine ⟨n, hn, ?_⟩
    unfold Alignment.callOf
    rw [hn]
    rfl
  · have hsame := List.append_cancel_left (hends.calls.symm.trans hledger.calls)
    cases last with
    | none => cases hsame
    | some other =>
      cases hsame
      rfl
  · rw [hcalls]
    cases hlast : last with
    | none => exact List.append_nil _
    | some call =>
      obtain ⟨other, hother, hmem | ⟨hmem, -⟩⟩ := hledger.breaksOff.1 (by rw [hlast]; rfl) <;>
        cases hfault.symm.trans hother <;> exfalso <;> revert hkind hmem <;>
        cases fault.kind <;> decide

end Operator
end ApparatusGraph
