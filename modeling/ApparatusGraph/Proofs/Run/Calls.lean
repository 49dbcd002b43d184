/-
# The calls of a run

`Operator.InCall` says that a run comes to a moment of one of its calls: where it stands,
what is left of the call, and the session by then.  What happens at the last moment of a
call decides how the run goes on:

| last moment | the run |
| --- | --- |
| a pause that is interrupted | ends there (`InCall.run_interrupted`) |
| an answer that its site does not accept | ends there (`InCall.run_rejected`) |
| an answer that its site accepts | stands at the next node (`InCall.goes_on`) |

Outside of calls nothing happens to the clock, to the token and to the list of calls.  So
`Session.Later` holds from the beginning of a run to each of its stands and moments, and a
visit ends where it began or at the last moment of its call (`Visits.ends`).  What each
visit keeps, a run keeps (`Operator.Kept`).
-/

import ApparatusGraph.Proofs.Run.Accounting
import ApparatusGraph.Proofs.Run.Medium
import ApparatusGraph.Proofs.Run.Moment

namespace ApparatusGraph

variable {σ μ : Type}

namespace Session

/-- Saying something takes no time. -/
theorem later_sayAll (s : Session σ μ) (events : List Event) : s.Later (s.sayAll events) :=
  .of_bare (s.bare_sayAll events)

/-- Sessions that differ in what was said and kept alone have made the same calls. -/
theorem invocations_eq_of_bare {ν : Type} {s : Session σ μ} {t : Session σ ν} (h : s.bare = t.bare) :
    s.invocations = t.invocations := congrArg Session.invocations h

/-- Saying something makes no call. -/
theorem invocations_sayAll (s : Session σ μ) (events : List Event) :
    (s.sayAll events).invocations = s.invocations :=
  invocations_eq_of_bare (s.bare_sayAll events)

/-- Sessions that differ in what was said and kept alone have the same token. -/
theorem cancelled_eq_of_bare {ν : Type} {s : Session σ μ} {t : Session σ ν} (h : s.bare = t.bare) :
    s.cancelled = t.cancelled := congrArg Session.cancelled h

end Session

/-- What a site makes of the result of its call: the registers to go on with, or a fault. -/
def Site.accept (site : Site σ) (r : Registers) : Except Failure Answer → Except Fault Registers
  | .error cause => .error (.apparatusFailure site.node site.apparatus cause)
  | .ok answer =>
    let (scattered, r) := r.scatter site.node (site.exit answer.branch).bindings answer.record
      (site.exit answer.branch).contract
    (fun _ => r) <$> scattered

namespace Operator

variable {op : Operator σ μ} {a : Alignment} {e : Errand} {order : Order} {runId : RunId}
  {s t t' : Session σ μ} {steps : List Step} {st : Stand σ μ a} {site : Site σ} {input : Record}

/-! ## Visits and trails in time -/

/-- A call that is waited for was made once, at the beginning. -/
theorem invocations_of_await {deadline : Option Nat} {events : List Event} {ended : Awaited Answer}
    (h : (site.call input).await deadline ((s.sayAll events).invoke site.apparatus input) =
      (ended, t)) :
    t.invocations = s.invocations.push ⟨site.apparatus, input, s.now⟩ := by
  have hsame := (Call.await_later deadline (site.call input)
    ((s.sayAll events).invoke site.apparatus input)).2
  rw [h] at hsame
  have hnow := Session.now_eq_of_bare (s.bare_sayAll events)
  dsimp only [Session.invoke] at hsame
  rw [hsame, Session.invocations_sayAll, hnow]

/-- A visit makes one call or none, and makes it at its beginning. -/
theorem Visits.invocations {p : Progress} {n : Node} {result : Except Fault (Visit a)} {r : Registers}
    {s' : Session σ μ} (h : op.Visits a e p n s result r s') :
    s'.invocations = s.invocations ∨
      ∃ apparatus input, s'.invocations = s.invocations.push ⟨apparatus, input, s.now⟩ := by
  cases h with
  | refused enter | passed enter => exact .inl (Session.invocations_sayAll _ _)
  | interrupted enter await | failed enter await => exact .inr ⟨_, _, invocations_of_await await⟩
  | left enter await leave =>
    rw [Session.invocations_sayAll]
    exact .inr ⟨_, _, invocations_of_await await⟩

/-- Time does not go back in a visit. -/
theorem Visits.later {p : Progress} {n : Node} {result : Except Fault (Visit a)} {r : Registers}
    {s' : Session σ μ} (h : op.Visits a e p n s result r s') : s.Later s' := by
  have hcall {events : List Event} {site : Site σ} {input : Record} {t : Session σ μ}
      {ended : Awaited Answer}
      (hawait : (site.call input).await (op.deadline e.started)
        ((s.sayAll events).invoke site.apparatus input) = (ended, t)) : s.Later t := by
    have hlater := (Call.await_later (op.deadline e.started) (site.call input)
      ((s.sayAll events).invoke site.apparatus input)).1
    rw [hawait] at hlater
    exact (s.later_sayAll events).trans ((Session.later_invoke _ _ _).trans hlater)
  cases h with
  | refused enter | passed enter => exact s.later_sayAll _
  | interrupted enter await | failed enter await => exact hcall await
  | left enter await leave => exact (hcall await).trans (Session.later_sayAll _ _)

/-- Time does not go back in a turn that completes its visit. -/
theorem turn_completed_later {step : Step} {onward : Onward a} {p : Progress}
    (h : op.turn a e st = .completed step onward p t) : st.session.Later (op.emit step t) := by
  obtain ⟨admitted, v, registers, s', -, hvisit, -, -, -, rfl⟩ := turn_completed h
  exact hvisit.later.trans (.of_bare (bare_emit _ _ _))

/-- Time does not go back in a turn that ends a run. -/
theorem turn_halted_later {fault : Fault} {p : Progress} (h : op.turn a e st = .halted fault p t) :
    st.session.Later t := by
  obtain ⟨-, -, rfl⟩ | ⟨admitted, registers, -, hvisit, -⟩ := turn_halted h
  · exact .refl _
  · exact hvisit.later

/-- The visit that ends a run in an output makes no call and takes no time. -/
theorem turn_done_bare (hsound : a.Sound op.foundry) {step : Step} {output : Output} {p : Progress}
    (h : op.turn a e st = .completed step (.done output) p t) : t.bare = st.session.bare := by
  obtain ⟨x, hx⟩ := turn_completed_ends hsound h
  obtain ⟨admitted, v, registers, s', -, hvisit, -, -, -, rfl⟩ := turn_completed h
  cases hvisit with
  | passed enter => exact Session.bare_sayAll _ _
  | left enter await leave =>
    obtain ⟨p, hp, -⟩ | ⟨sw, hsw, -⟩ := Node.site_of_enter enter
    · cases hx.symm.trans hp
    · cases hx.symm.trans hsw

/-- Time does not go back along a trail. -/
theorem Trail.later {st' : Stand σ μ a} (h : op.Trail a e st steps st') :
    st.session.Later st'.session := by
  induction h with
  | entry => exact .refl _
  | onward trail turn ih => exact ih.trans (turn_completed_later turn)

/-- Time does not go back in a walk. -/
theorem walk_later (op : Operator σ μ) (a : Alignment) (e : Errand) (st : Stand σ μ a) :
    st.session.Later (op.walk a e st).2.2 := by
  obtain ⟨steps, last, htrail, hlast⟩ := op.exists_trail_last a e st
  refine htrail.later.trans ?_
  rw [htrail.walk_eq]
  cases hturn : op.turn a e last with
  | halted fault p t =>
    rw [walk_halted hturn]
    exact turn_halted_later hturn
  | completed step onward p t =>
    cases onward with
    | next place => exact absurd hturn (hlast step place p t)
    | done output =>
      rw [walk_done hturn]
      exact turn_completed_later hturn

/-- A run does not stand anywhere before it begins. -/
theorem Reaches.later (h : op.Reaches a order runId s steps st) : s.Later st.session := by
  obtain ⟨place, -, htrail⟩ := h
  have hopened : s.Later (s.say (.runOpened a.size)) := .of_bare rfl
  exact hopened.trans htrail.later

/-- A run does not end before it stands somewhere. -/
theorem Reaches.later_run (h : op.Reaches a order runId s steps st) :
    st.session.Later (op.run a order runId s).2 := by
  rw [h.run_eq]
  exact (op.walk_later a _ st).trans (.of_bare rfl)

/-- A run does not end before a visit that it admits. -/
theorem Visits.later_run {p : Progress} {result : Except Fault (Visit a)} {r : Registers}
    (h : op.Visits a ⟨runId, order, s.now⟩ p (a.node st.place) st.session result r t)
    (reach : op.Reaches a order runId s steps st)
    (check : op.checkpoint s.now (a.node st.place) st.progress st.session = .ok p) :
    t.Later (op.run a order runId s).2 := by
  cases result with
  | error fault =>
    rw [← (Runs.failed reach check h).eq_run]
    exact .of_bare rfl
  | ok v =>
    have hturn := turn_of_complete (e := ⟨runId, order, s.now⟩) check h
    have hemitted (step : Step) (said : Event) : t.Later (op.emit step (t.say said)) :=
      .of_bare (bare_emit op step (t.say said))
    cases honward : v.onward with
    | next place =>
      rw [honward] at hturn
      exact (hemitted _ _).trans (reach.onward hturn).later_run
    | done output =>
      rw [honward] at hturn
      rw [← (Runs.arrived reach hturn).eq_run]
      exact (hemitted _ _).trans (.of_bare rfl)

/-- Time does not go back in a run. -/
theorem run_later (op : Operator σ μ) (a : Alignment) (order : Order) (runId : RunId)
    (s : Session σ μ) : s.Later (op.run a order runId s).2 := by
  cases hpreflight : op.preflight a with
  | error fault =>
    rw [run_of_preflight_error hpreflight]
    exact .of_bare rfl
  | ok place =>
    have hreach : op.Reaches a order runId s [] ⟨place, {}, s.say (.runOpened a.size)⟩ :=
      ⟨place, hpreflight, .entry⟩
    exact hreach.later.trans hreach.later_run

/-! ## Moments of calls -/

/-- A run comes to a moment of a call: it stands at `st` after `steps`, the visit there is admitted
and calls the apparatus of `site` on `input`, `c` is left of the call, and `t` is the session by
then. -/
structure InCall (op : Operator σ μ) (a : Alignment) (order : Order) (runId : RunId)
    (s : Session σ μ) (steps : List Step) (st : Stand σ μ a) (site : Site σ) (input : Record)
    (c : Call σ Answer) (t : Session σ μ) : Prop where
  reach : op.Reaches a order runId s steps st
  check : op.checkpoint s.now (a.node st.place) st.progress st.session =
    .ok { st.progress with steps := st.progress.steps + 1 }
  comes : ∃ events, (a.node st.place).enter op.foundry a order st.progress.registers =
      (events, .ok (.calls site input), st.progress.registers) ∧
    (site.call input).Comes (op.deadline s.now)
      ((st.session.sayAll events).invoke site.apparatus input) c t

namespace InCall

variable {c c' : Call σ Answer}

/-- A visit that is admitted and comes to a call is at the first moment of that call. -/
theorem begun {p : Progress} {events : List Event} {r : Registers}
    (reach : op.Reaches a order runId s steps st)
    (check : op.checkpoint s.now (a.node st.place) st.progress st.session = .ok p)
    (enter : (a.node st.place).enter op.foundry a order p.registers =
      (events, .ok (.calls site input), r)) :
    op.InCall a order runId s steps st site input (site.call input)
      ((st.session.sayAll events).invoke site.apparatus input) := by
  obtain ⟨-, -, rfl⟩ := checkpoint_ok check
  obtain rfl := (reach.sound.enter_calls (a.node_mem _) enter).1
  exact ⟨reach, check, events, enter, .begun⟩

/-- From one moment of a call to another. -/
theorem onward (h : op.InCall a order runId s steps st site input c t)
    (hcomes : c.Comes (op.deadline s.now) t c' t') :
    op.InCall a order runId s steps st site input c' t' := by
  obtain ⟨events, henter, hsofar⟩ := h.comes
  exact ⟨h.reach, h.check, events, henter, hsofar.trans hcomes⟩

/-- The site of a call serves the node that the run stands at. -/
theorem serves (h : op.InCall a order runId s steps st site input c t) :
    site.Serves (a.node st.place) := by
  obtain ⟨events, henter, -⟩ := h.comes
  exact (h.reach.sound.enter_calls (a.node_mem _) henter).2.1

/-- The visit of the call is counted. -/
theorem counted (h : op.InCall a order runId s steps st site input c t) :
    (st.progress.steps + 1).toNat = steps.length + 1 := (h.reach.counted h.check).1

/-! ## Last moments -/

/-- A pause that is interrupted ends the run. -/
theorem run_interrupted {ms : Nat} {next : Call σ Answer} {why : Interruption}
    (h : op.InCall a order runId s steps st site input (.pause ms next) t)
    (hpause : t.pauseUntil (op.deadline s.now) (t.now + ms) = (some why, t')) :
    op.run a order runId s = conclude ⟨runId, order, s.now⟩
      (.error (op.interruptionFault s.now (steps.length + 1) t'.now why),
        { st.progress with steps := st.progress.steps + 1 }, t') := by
  obtain ⟨events, henter, hcomes⟩ := h.comes
  have hawait : (site.call input).await (op.deadline s.now)
      ((st.session.sayAll events).invoke site.apparatus input) = (.interrupted why, t') := by
    rw [hcomes.await_eq, Call.await, hpause]
  rw [← h.counted]
  exact (Runs.failed h.reach h.check (.interrupted henter hawait)).eq_run.symm

/-- A result that its site does not accept ends the run: the call failed, or an output is
missing. -/
theorem run_rejected {result : Except Failure Answer} {fault : Fault}
    (h : op.InCall a order runId s steps st site input (.answer result) t)
    (hrejected : site.accept st.progress.registers result = .error fault) :
    fault.kind ∈ [.apparatusFailure, .missingOutput] ∧
      ∃ t', t'.bare = t.bare ∧ op.run a order runId s = conclude ⟨runId, order, s.now⟩
        (.error fault, { st.progress with steps := st.progress.steps + 1 }, t') := by
  obtain ⟨events, henter, hcomes⟩ := h.comes
  cases result with
  | error cause =>
    cases hrejected
    exact ⟨List.mem_cons_self, t, rfl,
      (Runs.failed h.reach h.check (.failed henter hcomes.await_eq)).eq_run.symm⟩
  | ok answer =>
    rcases hscatter : st.progress.registers.scatter site.node (site.exit answer.branch).bindings
      answer.record (site.exit answer.branch).contract with ⟨scattered, r⟩
    dsimp only [Site.accept] at hrejected
    rw [hscatter] at hrejected
    obtain rfl : scattered = .error fault := by
      cases scattered with
      | error reason =>
        cases hrejected
        rfl
      | ok passed => cases hrejected
    obtain ⟨rfl, var, rfl⟩ := Registers.scatter_error hscatter
    have hleave : site.leave a input answer st.progress.registers =
        (Registers.scatterEvents site.node (site.exit answer.branch).bindings answer.record
          (site.exit answer.branch).contract, .error (.missingOutput site.node var),
          st.progress.registers) := by
      unfold Site.leave
      dsimp only
      rw [hscatter]
    exact ⟨List.mem_cons_of_mem _ List.mem_cons_self, _, t.bare_sayAll _,
      (Runs.failed h.reach h.check (.left henter hcomes.await_eq hleave)).eq_run.symm⟩

/-- A result that its site accepts is used: it is written, and the run stands at the next node. -/
theorem goes_on {result : Except Failure Answer} {r : Registers}
    (h : op.InCall a order runId s steps st site input (.answer result) t)
    (haccepted : site.accept st.progress.registers result = .ok r) :
    ∃ step st', op.Reaches a order runId s (steps ++ [step]) st' ∧
      step.node = (a.node st.place).waypoint ∧ st'.progress.registers = r ∧
      st'.session.bare = t.bare := by
  obtain ⟨events, henter, hcomes⟩ := h.comes
  cases result with
  | error cause => cases haccepted
  | ok answer =>
    obtain ⟨hedge, -⟩ := h.serves.exit hcomes.await_eq
    obtain ⟨place, hplace⟩ :=
      h.reach.sound.resolve (a.node_mem _) (Node.edge_mem_successors hedge)
    rcases hscatter : st.progress.registers.scatter site.node (site.exit answer.branch).bindings
      answer.record (site.exit answer.branch).contract with ⟨scattered, r'⟩
    dsimp only [Site.accept] at haccepted
    rw [hscatter] at haccepted
    obtain ⟨rfl, rfl⟩ : scattered = .ok () ∧ r' = r := by
      cases scattered with
      | error reason => cases haccepted
      | ok passed => exact ⟨rfl, Except.ok.inj haccepted⟩
    have hleave : site.leave a input answer st.progress.registers =
        (Registers.scatterEvents site.node (site.exit answer.branch).bindings answer.record
          (site.exit answer.branch).contract,
          .ok ⟨input, answer.record, answer.branch, .next place⟩, r') := by
      unfold Site.leave
      dsimp only
      rw [hscatter]
      dsimp only
      rw [Alignment.follow_ok hplace]
    have hvisit : op.Visits a ⟨runId, order, s.now⟩
        { st.progress with steps := st.progress.steps + 1 } (a.node st.place) st.session _ r' _ :=
      .left henter hcomes.await_eq hleave
    have hturn := turn_of_complete h.check hvisit
    exact ⟨_, _, h.reach.onward hturn, turn_completed_node hturn, rfl,
      (bare_emit _ _ _).trans (Session.bare_sayAll _ _)⟩

/-- A call of a run comes to a last moment. -/
theorem exists_last (h : op.InCall a order runId s steps st site input c t) :
    (∃ result t', op.InCall a order runId s steps st site input (.answer result) t' ∧
      c.Comes (op.deadline s.now) t (.answer result) t') ∨
    ∃ ms next t' why after, op.InCall a order runId s steps st site input (.pause ms next) t' ∧
      c.Comes (op.deadline s.now) t (.pause ms next) t' ∧
      t'.pauseUntil (op.deadline s.now) (t'.now + ms) = (some why, after) := by
  obtain ⟨result, t', hcomes, -⟩ | ⟨ms, next, t', why, after, hcomes, hpause, -⟩ :=
    Call.exists_comes_last (op.deadline s.now) c t
  · exact .inl ⟨result, t', h.onward hcomes, hcomes⟩
  · exact .inr ⟨ms, next, t', why, after, h.onward hcomes, hcomes, hpause⟩

/-- A run that has come to a call ends within the visit, in a fault, or stands at the next node. -/
theorem ends_or_goes_on (h : op.InCall a order runId s steps st site input c t) :
    (∃ fault after, op.run a order runId s = conclude ⟨runId, order, s.now⟩
        (.error fault, { st.progress with steps := st.progress.steps + 1 }, after) ∧
      t.Later after ∧ after.invocations = t.invocations) ∨
    ∃ step st', op.Reaches a order runId s (steps ++ [step]) st' ∧
      t.Later st'.session ∧ st'.session.invocations = t.invocations := by
  obtain ⟨result, t', hlast, hcomes⟩ | ⟨ms, next, t', why, after, hlast, hcomes, hpause⟩ :=
    h.exists_last
  · cases haccept : site.accept st.progress.registers result with
    | error fault =>
      obtain ⟨-, after, hbare, hrun⟩ := hlast.run_rejected haccept
      exact .inl ⟨fault, after, hrun, hcomes.later.trans (.of_bare hbare),
        (Session.invocations_eq_of_bare hbare).trans hcomes.invocations⟩
    | ok r =>
      obtain ⟨step, st', hreach, -, -, hbare⟩ := hlast.goes_on haccept
      exact .inr ⟨step, st', hreach, hcomes.later.trans (.of_bare hbare),
        (Session.invocations_eq_of_bare hbare).trans hcomes.invocations⟩
  · have hlater := t'.later_pauseUntil (op.deadline s.now) (t'.now + ms)
    have hsame := t'.invocations_pauseUntil (op.deadline s.now) (t'.now + ms)
    rw [hpause] at hlater hsame
    exact .inl ⟨_, after, hlast.run_interrupted hpause, hcomes.later.trans hlater,
      hsame.trans hcomes.invocations⟩

/-- A run does not end before a moment of a call of it. -/
theorem later_run (h : op.InCall a order runId s steps st site input c t) :
    t.Later (op.run a order runId s).2 := by
  obtain ⟨fault, after, hrun, hlater, -⟩ | ⟨step, st', hreach, hlater, -⟩ := h.ends_or_goes_on
  · rw [hrun]
    exact hlater.trans (.of_bare rfl)
  · exact hlater.trans hreach.later_run

/-- A run that ends within a visit reports the registers and the nodes from before the visit. -/
theorem report_eq {fault : Fault} {after : Session σ μ}
    (h : op.InCall a order runId s steps st site input c t)
    (hrun : op.run a order runId s = conclude ⟨runId, order, s.now⟩
      (.error fault, { st.progress with steps := st.progress.steps + 1 }, after)) :
    (op.run a order runId s).1 = ⟨runId, .error fault, st.progress.registers, steps.map (·.node),
      steps.length + 1, after.now - s.now⟩ := by
  rw [hrun, ← h.reach.visited, ← h.counted]
  rfl

end InCall

/-- **A visit ends** where it began, at an answer, or at a pause that is interrupted. -/
theorem Visits.ends {p : Progress} {result : Except Fault (Visit a)} {r : Registers}
    (h : op.Visits a ⟨runId, order, s.now⟩ p (a.node st.place) st.session result r t)
    (reach : op.Reaches a order runId s steps st)
    (check : op.checkpoint s.now (a.node st.place) st.progress st.session = .ok p) :
    t.bare = st.session.bare ∨
      (∃ site input result t', op.InCall a order runId s steps st site input (.answer result) t' ∧
        t.bare = t'.bare) ∨
      ∃ site input ms next t' why,
        op.InCall a order runId s steps st site input (.pause ms next) t' ∧
          t'.pauseUntil (op.deadline s.now) (t'.now + ms) = (some why, t) := by
  cases h with
  | refused enter | passed enter => exact .inl (Session.bare_sayAll _ _)
  | interrupted enter await =>
    obtain ⟨ms, next, t', hcomes, hpause⟩ := Call.comes_of_interrupted await
    exact .inr (.inr ⟨_, _, ms, next, t', _, (InCall.begun reach check enter).onward hcomes, hpause⟩)
  | failed enter await =>
    exact .inr (.inl ⟨_, _, _, _,
      (InCall.begun reach check enter).onward (Call.comes_of_answered await), rfl⟩)
  | left enter await leave =>
    exact .inr (.inl ⟨_, _, _, _,
      (InCall.begun reach check enter).onward (Call.comes_of_answered await),
      Session.bare_sayAll _ _⟩)

/-- **A run that is stopped** by the token, the budget or the limit on steps is stopped by a check
between two nodes, or in a pause that is interrupted. -/
theorem run_stopped {fault : Fault} (h : (op.run a order runId s).1.outcome = .error fault)
    (hkind : fault.kind ∈ [.cancelled, .timeoutExceeded, .stepLimitExceeded]) :
    (∃ steps st, op.Reaches a order runId s steps st ∧
      op.checkpoint s.now (a.node st.place) st.progress st.session = .error fault ∧
      (op.run a order runId s).2.bare = st.session.bare) ∨
    ∃ steps st site input ms next t why t',
      op.InCall a order runId s steps st site input (.pause ms next) t ∧
      t.pauseUntil (op.deadline s.now) (t.now + ms) = (some why, t') ∧
      fault = op.interruptionFault s.now (steps.length + 1) t'.now why ∧
      (op.run a order runId s).2.bare = t'.bare := by
  obtain ⟨steps, hruns⟩ := op.exists_runs a order runId s
  generalize op.run a order runId s = x at h hruns ⊢
  cases hruns with
  | refused preflight =>
    cases h
    exact absurd ((by decide : ∀ k ∈ [FaultKind.cancelled, .timeoutExceeded, .stepLimitExceeded],
      k ∈ turnKinds) _ hkind) (preflight_error_kind preflight)
  | stopped reach check =>
    cases h
    exact .inl ⟨steps, _, reach, check, rfl⟩
  | failed reach check visit =>
    cases h
    obtain hother | ⟨events, site, input, r, why, henter, hawait, hfault⟩ :=
      visit.kind_or_cut reach.sound (a.node_mem _)
    · -- The two lists of kinds have nothing in common.
      exfalso
      revert hkind hother
      cases fault.kind <;> decide
    · obtain ⟨ms, next, t, hcomes, hpause⟩ := Call.comes_of_interrupted hawait
      rw [(reach.counted check).1] at hfault
      exact .inr ⟨steps, _, site, input, ms, next, t, why, _,
        (InCall.begun reach check henter).onward hcomes, hpause, hfault, rfl⟩
  | arrived reach turn => cases h

/-! ## What a run keeps -/

/-- A property of sessions that holds at the beginning of a run and that each admitted visit keeps,
whatever is said and recorded. -/
structure Kept (op : Operator σ μ) (a : Alignment) (order : Order) (runId : RunId)
    (s : Session σ μ) (P : Session σ μ → Prop) : Prop where
  bare : ∀ {t t' : Session σ μ}, t'.bare = t.bare → P t → P t'
  begins : P s
  visit : ∀ {steps st p result r t}, op.Reaches a order runId s steps st →
    op.checkpoint s.now (a.node st.place) st.progress st.session = .ok p →
    op.Visits a ⟨runId, order, s.now⟩ p (a.node st.place) st.session result r t →
    P st.session → P t

namespace Kept

variable {P : Session σ μ → Prop}

/-- A turn that completes its visit keeps what each visit keeps. -/
theorem turn (h : op.Kept a order runId s P) (reach : op.Reaches a order runId s steps st)
    {step : Step} {onward : Onward a} {p : Progress}
    (turn : op.turn a ⟨runId, order, s.now⟩ st = .completed step onward p t) (hst : P st.session) :
    P (op.emit step t) := by
  obtain ⟨admitted, v, registers, s', check, hvisit, -, -, -, rfl⟩ := turn_completed turn
  exact h.bare (bare_emit _ _ _) (h.bare (Session.bare_say _ _) (h.visit reach check hvisit hst))

/-- It holds wherever the run stands. -/
theorem reaches (h : op.Kept a order runId s P) (reach : op.Reaches a order runId s steps st) :
    P st.session := by
  obtain ⟨place, hpreflight, htrail⟩ := reach
  induction htrail with
  | entry => exact h.bare (Session.bare_say _ _) h.begins
  | onward trail turn ih => exact h.turn ⟨place, hpreflight, trail⟩ turn ih

/-- It holds at the end of the run. -/
theorem run (h : op.Kept a order runId s P) : P (op.run a order runId s).2 := by
  obtain ⟨steps, hruns⟩ := op.exists_runs a order runId s
  generalize op.run a order runId s = x at hruns
  cases hruns with
  | refused preflight =>
    exact h.bare (Session.bare_say _ _) (h.bare (Session.bare_say _ _) h.begins)
  | stopped reach check => exact h.bare (Session.bare_say _ _) (h.reaches reach)
  | failed reach check visit =>
    exact h.bare (Session.bare_say _ _) (h.visit reach check visit (h.reaches reach))
  | arrived reach turn =>
    exact h.bare (Session.bare_say _ _) (h.turn reach turn (h.reaches reach))

end Kept
end Operator
end ApparatusGraph
