/-
# Cancellation

The token of a run is set in one of three ways (`Operator.Fires`): it was set before the
run, a call of the run sets it, or it is set from outside while a call pauses.  A run
looks at it between two nodes and while a call pauses, in both places before it looks at
anything else.

A visit is admitted only while the token is not set.  So a token that is set at a moment
of a call was set by that call, and the call has not paused since:

| what the call does next | the run |
| --- | --- |
| it pauses | is stopped there and then |
| it answers what its site does not accept | ends in that fault |
| it answers what its site accepts | writes it, and is stopped between the two nodes |

Nothing clears a token (`Session.Later`), so what the token stops once it stops always
(`Operator.run_of_cancelled`).
-/

import ApparatusGraph.Proofs.Run.Calls
import ApparatusGraph.Proofs.Run.Declaration

namespace ApparatusGraph

variable {σ μ : Type}

namespace Session

/-- A token that is set comes at the beginning of every pause, whatever the deadline. -/
theorem tokenWithin_of_cancelled {s : Session σ μ} (h : s.cancelled = true) (deadline : Option Nat)
    (ms : Nat) : s.TokenWithin deadline (s.now + ms) s.now where
  comes := tokenTime_of_cancelled h
  inTime := Nat.le_add_right _ _
  first _ _ := Nat.le_max_left _ _

end Session

namespace Operator

variable {op : Operator σ μ} {a : Alignment} {order : Order} {runId : RunId}
  {s t t' : Session σ μ} {steps : List Step} {st : Stand σ μ a} {site : Site σ} {input : Record}

/-- The token of a run is set at a time, when so many visits were admitted and these calls were
made: before the run, by a call of it, or from outside while a call of it pauses. -/
inductive Fires (op : Operator σ μ) (a : Alignment) (order : Order) (runId : RunId)
    (s : Session σ μ) : Nat → Array Invocation → Nat → Prop where
  | before (fired : s.cancelled = true) : Fires op a order runId s 0 s.invocations s.now
  | inside {steps st site input next t}
      (call : op.InCall a order runId s steps st site input (.cancel next) t)
      (shared : t.tokenShared = true) :
      Fires op a order runId s (steps.length + 1) t.invocations t.now
  | outside {steps st site input ms next t time}
      (call : op.InCall a order runId s steps st site input (.pause ms next) t)
      (unset : t.cancelled = false)
      (comes : t.TokenWithin (op.deadline s.now) (t.now + ms) time) :
      Fires op a order runId s (steps.length + 1) t.invocations time

/-- The token of a run was set at `time` or before. -/
def Fired (op : Operator σ μ) (a : Alignment) (order : Order) (runId : RunId) (s : Session σ μ)
    (time : Nat) : Prop :=
  ∃ visits calls fired, op.Fires a order runId s visits calls fired ∧ fired ≤ time

/-- A token that was set by a time was set by every later time. -/
theorem Fired.mono {time time' : Nat} (h : op.Fired a order runId s time) (hle : time ≤ time') :
    op.Fired a order runId s time' := by
  obtain ⟨visits, calls, fired, hfires, hfired⟩ := h
  exact ⟨visits, calls, fired, hfires, Nat.le_trans hfired hle⟩

/-! ## What is behind a token that is set -/

/-- A visit is admitted only while the token is not set. -/
theorem cancelled_of_checkpoint {started : Nat} {n : Node} {p p' : Progress}
    (h : op.checkpoint started n p s = .ok p') : s.cancelled = false :=
  (interruption_eq_none (checkpoint_ok h).1).1

/-- After a pause the token is set only if it was before, or came within the pause. -/
theorem InCall.fired_of_pause {ms : Nat} {next : Call σ Answer} {why? : Option Interruption}
    (h : op.InCall a order runId s steps st site input (.pause ms next) t)
    (hpause : t.pauseUntil (op.deadline s.now) (t.now + ms) = (why?, t'))
    (hbefore : t.cancelled = true → op.Fired a order runId s t.now) (hset : t'.cancelled = true) :
    op.Fired a order runId s t'.now := by
  have hnow : t.now ≤ t'.now := by
    have hlater := t.later_pauseUntil (op.deadline s.now) (t.now + ms)
    rw [hpause] at hlater
    exact hlater.now
  by_cases hcancelled : t.cancelled = true
  · exact (hbefore hcancelled).mono hnow
  · obtain ⟨time, hcomes, heq⟩ | ⟨d, -, heq⟩ | ⟨-, heq⟩ :=
      t.pauseUntil_cases (op.deadline s.now) (t.now + ms) <;> rw [hpause] at heq <;> cases heq
    · exact ⟨_, _, time, .outside h (Bool.eq_false_iff.2 hcancelled) hcomes, Nat.le_max_right _ _⟩
    · exact absurd hset hcancelled
    · exact absurd hset hcancelled

/-- A token that is set at a moment of a call was set by then. -/
theorem InCall.fired {c : Call σ Answer} (h : op.InCall a order runId s steps st site input c t)
    (hset : t.cancelled = true) : op.Fired a order runId s t.now := by
  obtain ⟨reach, check, events, enter, hcomes⟩ := h
  -- The moments before are moments of the same call.
  have hcall {c : Call σ Answer} {t : Session σ μ}
      (hcomes : (site.call input).Comes (op.deadline s.now)
        ((st.session.sayAll events).invoke site.apparatus input) c t) :
      op.InCall a order runId s steps st site input c t := ⟨reach, check, events, enter, hcomes⟩
  induction hcomes with
  | begun =>
    have hunset := cancelled_of_checkpoint check
    have hsame := Session.cancelled_eq_of_bare (st.session.bare_sayAll events)
    exact absurd (hsame.symm.trans hset) (by simp [hunset])
  | stored _ ih => exact ih hset
  | noted _ ih => exact ih hset
  | occupied _ ih => exact (ih hset).mono (Nat.le_add_right _ _)
  | woke hbefore pause ih => exact (hcall hbefore).fired_of_pause pause ih hset
  | @cancelled next t hbefore ih =>
    by_cases hshared : t.tokenShared = true
    · exact ⟨_, _, t.now, .inside (hcall hbefore) hshared, t.later_cancel.now⟩
    · have hsame : t.cancel = t := if_neg hshared
      rw [hsame] at hset ⊢
      exact ih hset

/-- A token that is set after an admitted visit was set by then. -/
theorem Visits.fired {p : Progress} {result : Except Fault (Visit a)} {r : Registers}
    (h : op.Visits a ⟨runId, order, s.now⟩ p (a.node st.place) st.session result r t)
    (reach : op.Reaches a order runId s steps st)
    (check : op.checkpoint s.now (a.node st.place) st.progress st.session = .ok p)
    (hset : t.cancelled = true) : op.Fired a order runId s t.now := by
  obtain hbare | ⟨site, input, result, t', hcall, hbare⟩ |
    ⟨site, input, ms, next, t', why, hcall, hpause⟩ := h.ends reach check
  · rw [Session.cancelled_eq_of_bare hbare, cancelled_of_checkpoint check] at hset
    cases hset
  · rw [Session.cancelled_eq_of_bare hbare] at hset
    rw [Session.now_eq_of_bare hbare]
    exact hcall.fired hset
  · exact hcall.fired_of_pause hpause hcall.fired hset

/-- A token that is set was set by then, at every moment of a run. -/
theorem kept_fired (op : Operator σ μ) (a : Alignment) (order : Order) (runId : RunId)
    (s : Session σ μ) :
    op.Kept a order runId s fun t => t.cancelled = true → op.Fired a order runId s t.now where
  bare hbare hfired hset := by
    rw [Session.cancelled_eq_of_bare hbare] at hset
    rw [Session.now_eq_of_bare hbare]
    exact hfired hset
  begins hset := ⟨_, _, _, .before hset, Nat.le_refl _⟩
  visit reach check visit _ := visit.fired reach check

/-- A run that ends because of the token ends with the token set. -/
theorem cancelled_of_outcome {n : Nat} (h : (op.run a order runId s).1.outcome = .error (.cancelled n)) :
    (op.run a order runId s).2.cancelled = true := by
  obtain ⟨steps, st, reach, check, hbare⟩ |
    ⟨steps, st, site, input, ms, next, t, why, t', -, hpause, hfault, hbare⟩ :=
    run_stopped h List.mem_cons_self
  · rw [Session.cancelled_eq_of_bare hbare]
    obtain hinterrupted | ⟨-, -, hlimit⟩ := checkpoint_refuses check
    · obtain ⟨hset, -⟩ | ⟨-, htimeout⟩ := interruption_eq_some hinterrupted
      · exact hset
      · cases htimeout
    · cases hlimit
  · rw [Session.cancelled_eq_of_bare hbare]
    cases why with
    | timedOut => cases hfault
    | cancelled => exact Session.cancelled_of_pauseUntil hpause

/-! ## What a token that is set stops -/

/-- A run that stands where the token is set is stopped there. -/
theorem Reaches.run_cancelled (h : op.Reaches a order runId s steps st)
    (hset : st.session.cancelled = true) :
    op.run a order runId s = conclude ⟨runId, order, s.now⟩
      (.error (.cancelled steps.length), st.progress, st.session) := by
  have hcheck : op.checkpoint s.now (a.node st.place) st.progress st.session =
      .error (.cancelled steps.length) := by
    unfold checkpoint interruption?
    rw [if_pos hset, h.length_steps]
  exact (Runs.stopped h hcheck).eq_run.symm

/-- A run that begins with the token set visits nothing and calls nothing. -/
theorem run_of_cancelled (op : Operator σ μ) (a : Alignment) (order : Order) (runId : RunId)
    (hset : s.cancelled = true) :
    (op.run a order runId s).1.steps = 0 ∧ (op.run a order runId s).1.visited = [] ∧
      (op.run a order runId s).2.invocations = s.invocations ∧
      (op.run a order runId s).2.kept = s.kept ∧
      (∀ output, (op.run a order runId s).1.outcome ≠ .ok output) ∧
      (op.Admits a → (op.run a order runId s).1 = ⟨runId, .error (.cancelled 0), {}, [], 0, 0⟩) := by
  cases hpreflight : op.preflight a with
  | error fault =>
    rw [run_of_preflight_error hpreflight]
    refine ⟨rfl, rfl, rfl, rfl, nofun, fun hadmits => ?_⟩
    obtain ⟨place, hplace⟩ := preflight_ok_iff.2 hadmits
    cases hpreflight.symm.trans hplace
  | ok place =>
    have hreach : op.Reaches a order runId s [] ⟨place, {}, s.say (.runOpened a.size)⟩ :=
      ⟨place, hpreflight, .entry⟩
    rw [hreach.run_cancelled hset]
    refine ⟨rfl, rfl, rfl, rfl, nofun, fun _ => ?_⟩
    show Report.mk runId _ _ _ _ (s.now - s.now) = _
    rw [Nat.sub_self]
    rfl

namespace InCall

/-- After a moment of a call at which the token is set, no visit is admitted and no call is made. -/
theorem run_cancelled {c : Call σ Answer} (h : op.InCall a order runId s steps st site input c t)
    (hset : t.cancelled = true) :
    (op.run a order runId s).1.steps = steps.length + 1 ∧
      (op.run a order runId s).2.invocations = t.invocations ∧
      ∀ output, (op.run a order runId s).1.outcome ≠ .ok output := by
  obtain ⟨fault, after, hrun, -, hcalls⟩ | ⟨step, st', hreach, hlater, hcalls⟩ := h.ends_or_goes_on
  · have hreport := h.report_eq hrun
    rw [hreport, hrun]
    exact ⟨rfl, hcalls, nofun⟩
  · rw [hreach.run_cancelled (hlater.cancelled hset)]
    refine ⟨?_, hcalls, nofun⟩
    show st'.progress.steps.toNat = _
    rw [hreach.length_steps, List.length_append, List.length_singleton]

/-- A token that comes within a pause stops the run at that moment. -/
theorem run_token {ms time : Nat} {next : Call σ Answer}
    (h : op.InCall a order runId s steps st site input (.pause ms next) t)
    (hcomes : t.TokenWithin (op.deadline s.now) (t.now + ms) time) :
    (op.run a order runId s).1 = ⟨runId, .error (.cancelled (steps.length + 1)),
        st.progress.registers, steps.map (·.node), steps.length + 1, time - s.now⟩ ∧
      (op.run a order runId s).2.now = time ∧
      (op.run a order runId s).2.cancelled = true ∧
      (op.run a order runId s).2.invocations = t.invocations := by
  have htime : max t.now time = time :=
    Nat.max_eq_right (Session.now_le_tokenTime hcomes.comes)
  have hrun := h.run_interrupted hcomes.pauseUntil
  have hreport := h.report_eq hrun
  dsimp only [Session.goTo] at hreport
  rw [htime] at hreport
  refine ⟨hreport, ?_⟩
  rw [hrun]
  exact ⟨htime, rfl, rfl⟩

/-- A call that sets the token pauses next, or answers. -/
theorem pauses_or_answers {next : Call σ Answer}
    (h : op.InCall a order runId s steps st site input (.cancel next) t)
    (hshared : t.tokenShared = true) :
    (∃ ms next' t', op.InCall a order runId s steps st site input (.pause ms next') t' ∧
      t'.cancelled = true) ∨
    ∃ result t', op.InCall a order runId s steps st site input (.answer result) t' ∧
      t'.cancelled = true := by
  have hset : t.cancel.cancelled = true := by
    unfold Session.cancel
    rw [if_pos hshared]
  obtain ⟨result, t', hlast, hcomes⟩ | ⟨ms, next', t', why, after, hlast, hcomes, -⟩ :=
    (h.onward (.cancelled .begun)).exists_last
  · exact .inr ⟨result, t', hlast, hcomes.later.cancelled hset⟩
  · exact .inl ⟨ms, next', t', hlast, hcomes.later.cancelled hset⟩

/-- A call that has set the token and answers is used, and the run is stopped before the next
visit. -/
theorem run_answered {result : Except Failure Answer}
    (h : op.InCall a order runId s steps st site input (.answer result) t)
    (hset : t.cancelled = true) :
    (∀ fault, site.accept st.progress.registers result = .error fault →
      fault.kind ∈ [.apparatusFailure, .missingOutput] ∧
        (op.run a order runId s).1 = ⟨runId, .error fault, st.progress.registers,
          steps.map (·.node), steps.length + 1, t.now - s.now⟩ ∧
        (op.run a order runId s).2.now = t.now) ∧
    ∀ r, site.accept st.progress.registers result = .ok r →
      (op.run a order runId s).1 = ⟨runId, .error (.cancelled (steps.length + 1)), r,
          steps.map (·.node) ++ [(a.node st.place).waypoint], steps.length + 1, t.now - s.now⟩ ∧
        (op.run a order runId s).2.now = t.now := by
  constructor
  · intro fault hrejected
    obtain ⟨hkind, t', hbare, hrun⟩ := h.run_rejected hrejected
    have hreport := h.report_eq hrun
    rw [Session.now_eq_of_bare hbare] at hreport
    refine ⟨hkind, hreport, ?_⟩
    rw [hrun]
    exact Session.now_eq_of_bare hbare
  · intro r haccepted
    obtain ⟨step, st', hreach, hnode, rfl, hbare⟩ := h.goes_on haccepted
    have hnow := Session.now_eq_of_bare hbare
    have hstopped := (Session.cancelled_eq_of_bare hbare).trans hset
    rw [hreach.run_cancelled hstopped]
    refine ⟨?_, hnow⟩
    show Report.mk runId (.error (.cancelled (steps ++ [step]).length)) st'.progress.registers
      st'.progress.visited.toList st'.progress.steps.toNat (st'.session.now - s.now) = _
    rw [hreach.visited, hreach.length_steps, hnow, List.length_append, List.map_append,
      List.map_singleton, hnode]
    rfl

end InCall

/-- When the token of a run is set, the visits and the calls by then are all that the run makes. -/
theorem Fires.run_eq {visits time : Nat} {calls : Array Invocation}
    (h : op.Fires a order runId s visits calls time) :
    (op.run a order runId s).1.steps = visits ∧ (op.run a order runId s).2.invocations = calls ∧
      (∀ output, (op.run a order runId s).1.outcome ≠ .ok output) ∧
      (op.run a order runId s).2.cancelled = true := by
  cases h with
  | before fired =>
    obtain ⟨hsteps, -, hcalls, -, houtcome, -⟩ := op.run_of_cancelled a order runId fired
    exact ⟨hsteps, hcalls, houtcome, (op.run_later a order runId s).cancelled fired⟩
  | @inside _ _ _ _ _ t call shared =>
    have hset : t.cancel.cancelled = true := by
      unfold Session.cancel
      rw [if_pos shared]
    have hnext := call.onward (.cancelled .begun)
    obtain ⟨hsteps, hcalls, houtcome⟩ := hnext.run_cancelled hset
    exact ⟨hsteps, hcalls.trans t.invocations_cancel, houtcome, hnext.later_run.cancelled hset⟩
  | outside call unset comes =>
    obtain ⟨hreport, -, hset, hcalls⟩ := call.run_token comes
    rw [hreport]
    exact ⟨rfl, hcalls, nofun, hset⟩

/-- **Cancellation is sticky and prompt.**
* A run ends because of the token only if the token was set by then.
* The visits and the calls by the time the token is set are all that the run makes, and the run
  does not end in an output.
* A pause during which the token comes, or at whose beginning it is set, ends the run at that
  moment, whatever the deadline, and the node has written nothing.
* A call that sets the token pauses next or answers.  An answer is used as always; if its site
  accepts it, the run ends at the next check, whatever is left of the budget and of the steps.
* Whatever runs later under the same token visits nothing and calls nothing. -/
theorem cancellation_sticky_prompt (op : Operator σ μ) (a : Alignment) (order : Order)
    (runId : RunId) (s : Session σ μ) :
    let report := (op.run a order runId s).1
    let after := (op.run a order runId s).2
    (∀ n, report.outcome = .error (.cancelled n) → op.Fired a order runId s after.now) ∧
    (∀ visits calls time, op.Fires a order runId s visits calls time →
      report.steps = visits ∧ after.invocations = calls ∧
        (∀ output, report.outcome ≠ .ok output) ∧ after.cancelled = true) ∧
    (∀ steps st site input ms next t,
      op.InCall a order runId s steps st site input (.pause ms next) t →
        ∀ time, t.TokenWithin (op.deadline s.now) (t.now + ms) time ∨
            t.cancelled = true ∧ time = t.now →
          report = ⟨runId, .error (.cancelled (steps.length + 1)), st.progress.registers,
              steps.map (·.node), steps.length + 1, time - s.now⟩ ∧
            after.now = time) ∧
    (∀ steps st site input next t,
      op.InCall a order runId s steps st site input (.cancel next) t → t.tokenShared = true →
        (∃ ms next' t', op.InCall a order runId s steps st site input (.pause ms next') t' ∧
          t'.cancelled = true) ∨
        ∃ result t', op.InCall a order runId s steps st site input (.answer result) t' ∧
          t'.cancelled = true) ∧
    (∀ steps st site input result t,
      op.InCall a order runId s steps st site input (.answer result) t → t.cancelled = true →
        (∀ fault, site.accept st.progress.registers result = .error fault →
          fault.kind ∈ [.apparatusFailure, .missingOutput] ∧
            report = ⟨runId, .error fault, st.progress.registers, steps.map (·.node),
              steps.length + 1, t.now - s.now⟩ ∧
            after.now = t.now) ∧
        ∀ r, site.accept st.progress.registers result = .ok r →
          report = ⟨runId, .error (.cancelled (steps.length + 1)), r,
              steps.map (·.node) ++ [(a.node st.place).waypoint], steps.length + 1,
              t.now - s.now⟩ ∧
            after.now = t.now) ∧
    ∀ visits calls time, op.Fires a order runId s visits calls time →
      ∀ (op' : Operator σ μ) (a' : Alignment) (order' : Order) (runId' : RunId) (u : Session σ μ),
        after.Later u →
          let report' := (op'.run a' order' runId' u).1
          let after' := (op'.run a' order' runId' u).2
          report'.steps = 0 ∧ report'.visited = [] ∧ after'.invocations = u.invocations ∧
            after'.kept = u.kept ∧ after'.cancelled = true ∧
            (op'.Admits a' → report' = ⟨runId', .error (.cancelled 0), {}, [], 0, 0⟩) := by
  refine ⟨fun n houtcome => (op.kept_fired a order runId s).run (cancelled_of_outcome houtcome),
    fun visits calls time hfires => hfires.run_eq, ?pauses,
    fun steps st site input next t hcall => hcall.pauses_or_answers,
    fun steps st site input result t hcall => hcall.run_answered, ?later⟩
  case pauses =>
    rintro steps st site input ms next t hcall time (hcomes | ⟨hset, rfl⟩)
    · obtain ⟨hreport, hnow, -, -⟩ := hcall.run_token hcomes
      exact ⟨hreport, hnow⟩
    · obtain ⟨hreport, hnow, -, -⟩ := hcall.run_token (Session.tokenWithin_of_cancelled hset _ ms)
      exact ⟨hreport, hnow⟩
  case later =>
    intro visits calls time hfires op' a' order' runId' u hlater
    obtain ⟨-, -, -, hset⟩ := hfires.run_eq
    have hset := hlater.cancelled hset
    obtain ⟨hsteps, hvisited, hcalls, hkept, -, hadmits⟩ :=
      op'.run_of_cancelled a' order' runId' hset
    exact ⟨hsteps, hvisited, hcalls, hkept, (op'.run_later a' order' runId' u).cancelled hset,
      hadmits⟩

/-- A session whose token is set from outside at 5 milliseconds. -/
def hailed : Session Unit Unit := { store := (), kept := (), cancelAt := some 5 }

/-- The operator of the turnstile with a processor that asks for the run to stop, and answers. -/
def quitting : Operator Unit Unit where
  foundry := ⟨(∅ : Named (Apparatus Unit)).insert "idle" (.processor
      { idler with process := fun input => .cancel (.ok input) }), by
    intro e he
    obtain rfl | he := Named.mem_place he
    · rfl
    · cases he⟩

/-- A run on the turnstile comes to the pause of its first call, which is made at once. -/
theorem exists_inCall_hailed : ∃ step st site input next t,
    idling.InCall turnstile ⟨"go", []⟩ (.ofNat 1) hailed [step] st site input (.pause 20 next) t ∧
      t.cancelled = false ∧ t.now = 0 ∧ t.tokenTime = some 5 ∧
      t.invocations = #[⟨"idle", ∅, 0⟩] := by
  have hentry : idling.Reaches turnstile ⟨"go", []⟩ (.ofNat 1) hailed []
      ⟨⟨0, by decide⟩, {}, hailed.say (.runOpened turnstile.size)⟩ := ⟨_, rfl, .entry⟩
  exact ⟨_, _, _, _, _, _, .begun (hentry.onward rfl) rfl rfl, rfl, rfl, rfl, rfl⟩

/-- A run that is asked to stop by its first call comes to the answer of that call, which its site
accepts. -/
theorem exists_inCall_quitting : ∃ step st site input result t r,
    quitting.InCall turnstile ⟨"go", []⟩ (.ofNat 1) { store := (), kept := () } [step] st site input
        (.answer result) t ∧
      t.cancelled = true ∧ site.accept st.progress.registers result = .ok r ∧
      step.node = .ingress ∧ (turnstile.node st.place).waypoint = .process "turn" := by
  have hentry : quitting.Reaches turnstile ⟨"go", []⟩ (.ofNat 1) { store := (), kept := () } []
      ⟨⟨0, by decide⟩, {}, Session.say { store := (), kept := () } (.runOpened turnstile.size)⟩ :=
    ⟨_, rfl, .entry⟩
  have hcall := InCall.begun (hentry.onward rfl) rfl rfl
  exact ⟨_, _, _, _, _, _, _, hcall.onward (.cancelled .begun), rfl, rfl, rfl, rfl⟩

/-- A token that comes at 5 milliseconds cuts the first pause of the turnstile short, and the next
run under it makes no visit; a token that the first call sets lets that call be used. -/
theorem cancellation_sticky_prompt_turnstile :
    let cut := (idling.run turnstile ⟨"go", []⟩ (.ofNat 1) hailed).1
    let after := (idling.run turnstile ⟨"go", []⟩ (.ofNat 1) hailed).2
    let used := (quitting.run turnstile ⟨"go", []⟩ (.ofNat 1) { store := (), kept := () }).1
    idling.Fires turnstile ⟨"go", []⟩ (.ofNat 1) hailed 2 #[⟨"idle", ∅, 0⟩] 5 ∧
      cut.outcome = .error (.cancelled 2) ∧ cut.elapsed = 5 ∧
      after.invocations = #[⟨"idle", ∅, 0⟩] ∧
      (idling.run turnstile ⟨"go", []⟩ (.ofNat 2) after).1.steps = 0 ∧
      used.outcome = .error (.cancelled 2) ∧ used.visited = [.ingress, .process "turn"] := by
  obtain ⟨step, st, site, input, next, t, hcall, hunset, hnow, htoken, hcalls⟩ :=
    exists_inCall_hailed
  have hcomes : t.TokenWithin (idling.deadline hailed.now) (t.now + 20) 5 :=
    ⟨htoken, by rw [hnow]; decide, by rintro d ⟨⟩; rw [hnow]; decide⟩
  have hfires := Fires.outside hcall hunset hcomes
  rw [hcalls] at hfires
  obtain ⟨-, hvisits, hpauses, -, -, hlater⟩ :=
    cancellation_sticky_prompt idling turnstile ⟨"go", []⟩ (.ofNat 1) hailed
  obtain ⟨hreport, -⟩ := hpauses _ _ _ _ _ _ _ hcall 5 (.inl hcomes)
  obtain ⟨-, hmade, -, -⟩ := hvisits _ _ _ hfires
  obtain ⟨hsteps, -⟩ := hlater _ _ _ hfires idling turnstile ⟨"go", []⟩ (.ofNat 2) _ (.refl _)
  obtain ⟨step', st', site', input', result, t', r, hcall', hset, haccepted, hfirst, hnode⟩ :=
    exists_inCall_quitting
  obtain ⟨-, -, -, -, hanswers, -⟩ := cancellation_sticky_prompt quitting turnstile ⟨"go", []⟩
    (.ofNat 1) { store := (), kept := () }
  obtain ⟨hused, -⟩ := (hanswers _ _ _ _ _ _ hcall' hset).2 r haccepted
  have hvisited := congrArg Report.visited hused
  dsimp only [List.map_singleton, List.singleton_append] at hvisited
  rw [hfirst, hnode] at hvisited
  exact ⟨hfires, congrArg Report.outcome hreport, congrArg Report.elapsed hreport, hmade, hsteps,
    congrArg Report.outcome hused, hvisited⟩

end Operator
end ApparatusGraph
