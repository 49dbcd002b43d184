/-
# The budget

The budget of a run ends at its deadline.  A run looks at it in two places and compares
differently:

| place | the run is stopped when the deadline | what goes on has begun |
| --- | --- | --- |
| between two nodes | has passed | at the deadline or before |
| while a call pauses | has come | before the deadline |

Time passes only in calls, so a visit that is admitted begins by the deadline, and so
does its call.  An egress makes no call, so a run that arrives has arrived by the
deadline.  Only a call that occupies the clock goes on beyond it (`Operator.Occupies`);
where no call does, nothing in the run is later than the deadline, and a run that times
out does so on the millisecond.
-/

import ApparatusGraph.Proofs.Run.Calls
import ApparatusGraph.Proofs.Run.Declaration

namespace ApparatusGraph

variable {σ μ : Type}

/-- A call that occupies the clock nowhere, whatever is stored. -/
def Call.Yields {α : Type} : Call σ α → Prop
  | .answer _ => True
  | .store _ next => ∀ stored, (next stored).Yields
  | .pause _ next => next.Yields
  | .occupy _ _ => False
  | .cancel next => next.Yields
  | .note _ next => next.Yields

/-- A foundry of callables whose calls occupy the clock nowhere. -/
structure Foundry.Yields (f : Foundry σ) : Prop where
  process : ∀ {name : String} {processor : Processor σ}, f.processor? name = some processor →
    ∀ input, (processor.process input).Yields
  check : ∀ {name : String} {switcher : Switcher σ}, f.switcher? name = some switcher →
    ∀ input, (switcher.check input).Yields

namespace Call.Yields

variable {α β : Type} {c c' : Call σ α}

/-- Calls whose answers are mapped occupy the clock nowhere if they did not before. -/
theorem map (h : c.Yields) (f : α → β) : (c.map f).Yields := by
  induction c with
  | answer result => trivial
  | store change next ih => exact fun stored => ih stored (h stored)
  | pause ms next ih => exact ih h
  | occupy ms next ih => exact h
  | cancel next ih => exact ih h
  | note event next ih => exact ih h

/-- What is left of such a call is such a call. -/
theorem comes (h : c.Yields) {deadline : Option Nat} {s s' : Session σ μ}
    (hcomes : c.Comes deadline s c' s') : c'.Yields := by
  induction hcomes with
  | begun => exact h
  | @stored change next t _ ih => exact ih t.store
  | woke _ _ ih => exact ih
  | occupied _ ih => exact ih.elim
  | cancelled _ ih => exact ih
  | noted _ ih => exact ih

end Call.Yields

/-- The sites of such a foundry make such calls. -/
theorem Foundry.Yields.site {f : Foundry σ} (h : f.Yields) {n : Node} {a : Alignment} {o : Order}
    {r r' : Registers} {events : List Event} {site : Site σ} {input : Record}
    (henter : n.enter f a o r = (events, .ok (.calls site input), r')) :
    (site.call input).Yields := by
  obtain ⟨p, rfl, hsite⟩ | ⟨sw, rfl, hsite⟩ := Node.site_of_enter henter
  · unfold Process.site at hsite
    split at hsite
    · cases hsite
    · rename_i processor hprocessor
      cases hsite
      exact (h.process hprocessor input).map _
  · unfold Switch.site at hsite
    split at hsite
    · cases hsite
    · rename_i switcher hswitcher
      cases hsite
      exact (h.check hswitcher input).map _

/-- Between two sessions calls are made, all of them from the time `first` to the time `last`. -/
def Session.CallsWithin (s t : Session σ μ) (first last : Nat) : Prop :=
  ∃ made, t.invocations.toList = s.invocations.toList ++ made ∧
    ∀ call ∈ made, first ≤ call.time ∧ call.time ≤ last

namespace Operator

variable {op : Operator σ μ} {a : Alignment} {order : Order} {runId : RunId}
  {s t : Session σ μ} {steps : List Step} {st : Stand σ μ a} {site : Site σ} {input : Record}
  {b : UInt64}

/-- The deadline of a run is its start and its budget. -/
theorem deadline_of_budget (h : op.limits.timeoutMs = some b) (started : Nat) :
    op.deadline started = some (started + b.toNat) := by
  unfold deadline
  rw [h]
  rfl

/-- The fault of a run that timed out names the time that it took and its budget. -/
theorem timeoutFault_of_budget (h : op.limits.timeoutMs = some b) (started now : Nat) :
    op.timeoutFault started now = .timeoutExceeded (now - started) b.toNat := by
  unfold timeoutFault
  rw [h]
  rfl

/-- A budget is overrun after its deadline, and not yet at it. -/
theorem overrun_of_budget (h : op.limits.timeoutMs = some b) (started now : Nat) :
    op.overrun started now = decide (started + b.toNat < now) := by
  unfold overrun
  rw [deadline_of_budget h]

/-- Between two nodes a run goes on only by the deadline. -/
theorem now_le_of_uninterrupted (hbudget : op.limits.timeoutMs = some b) {started count : Nat}
    (h : op.interruption? started count s = none) : s.now ≤ started + b.toNat := by
  have hin := (interruption_eq_none h).2
  rw [overrun_of_budget hbudget, decide_eq_false_iff_not] at hin
  exact Nat.not_lt.1 hin

/-! ## What begins within the budget -/

/-- The calls of a run are made by its deadline. -/
theorem kept_callsWithin (hbudget : op.limits.timeoutMs = some b) (a : Alignment) (order : Order)
    (runId : RunId) (s : Session σ μ) :
    op.Kept a order runId s fun t => s.CallsWithin t s.now (s.now + b.toNat) where
  bare hbare hcalls := by
    unfold Session.CallsWithin
    rw [Session.invocations_eq_of_bare hbare]
    exact hcalls
  begins := ⟨[], (List.append_nil _).symm, nofun⟩
  visit {_ st _ _ _ _} reach check visit hcalls := by
    obtain ⟨made, heq, hmade⟩ := hcalls
    obtain hsame | ⟨apparatus, input, hpush⟩ := visit.invocations
    · exact ⟨made, hsame ▸ heq, hmade⟩
    · refine ⟨made ++ [⟨apparatus, input, st.session.now⟩], ?_, fun call hcall => ?_⟩
      · rw [hpush, Array.toList_push, heq, List.append_assoc]
      · obtain hcall | hcall := List.mem_append.1 hcall
        · exact hmade call hcall
        · obtain rfl := List.mem_singleton.1 hcall
          exact ⟨reach.later.now, now_le_of_uninterrupted hbudget (checkpoint_ok check).1⟩

/-- A run that ends in an output ends by its deadline. -/
theorem now_le_of_ok (hbudget : op.limits.timeoutMs = some b) {output : Output}
    (h : (op.run a order runId s).1.outcome = .ok output) :
    (op.run a order runId s).2.now ≤ s.now + b.toNat := by
  obtain ⟨steps, hruns⟩ := op.exists_runs a order runId s
  generalize op.run a order runId s = x at h hruns
  cases hruns with
  | refused preflight => cases h
  | stopped reach check => cases h
  | failed reach check visit => cases h
  | @arrived _ st step _ _ t reach turn =>
    obtain ⟨admitted, v, registers, s', check, -, -, -, -, -⟩ := turn_completed turn
    have hbare : (op.emit step t).bare = st.session.bare :=
      (bare_emit op step t).trans (turn_done_bare reach.sound turn)
    have hin := now_le_of_uninterrupted hbudget (checkpoint_ok check).1
    rw [← Session.now_eq_of_bare hbare] at hin
    exact hin

/-- A run that ends at its limit on steps ends by its deadline. -/
theorem now_le_of_limit (hbudget : op.limits.timeoutMs = some b) {limit : Nat} {node : String}
    (h : (op.run a order runId s).1.outcome = .error (.stepLimitExceeded limit node)) :
    (op.run a order runId s).2.now ≤ s.now + b.toNat := by
  obtain ⟨steps, st, reach, check, hbare⟩ |
    ⟨steps, st, site, input, ms, next, t, why, t', -, -, hfault, -⟩ :=
    run_stopped h (by simp [Fault.kind])
  · rw [Session.now_eq_of_bare hbare]
    obtain hinterrupted | ⟨hnone, -, -⟩ := checkpoint_refuses check
    · obtain ⟨-, hfault⟩ | ⟨-, hfault⟩ := interruption_eq_some hinterrupted <;> cases hfault
    · exact now_le_of_uninterrupted hbudget hnone
  · cases why <;> cases hfault

/-! ## Runs that time out -/

/-- What a run reports as its time is the time from its start to its end. -/
theorem run_elapsed (op : Operator σ μ) (a : Alignment) (order : Order) (runId : RunId)
    (s : Session σ μ) :
    (op.run a order runId s).1.elapsed = (op.run a order runId s).2.now - s.now := rfl

/-- A run that times out names its budget and the time it took, and ends at its deadline or
after. -/
theorem timeout_eq (hbudget : op.limits.timeoutMs = some b) {elapsed budget : Nat}
    (h : (op.run a order runId s).1.outcome = .error (.timeoutExceeded elapsed budget)) :
    budget = b.toNat ∧ elapsed = (op.run a order runId s).1.elapsed ∧
      s.now + b.toNat ≤ (op.run a order runId s).2.now := by
  rw [run_elapsed]
  obtain ⟨steps, st, reach, check, hbare⟩ |
    ⟨steps, st, site, input, ms, next, t, why, t', -, hpause, hfault, hbare⟩ :=
    run_stopped h (by simp [Fault.kind])
  · rw [Session.now_eq_of_bare hbare]
    obtain hinterrupted | ⟨-, -, hfault⟩ := checkpoint_refuses check
    · obtain ⟨-, hfault⟩ | ⟨hoverrun, hfault⟩ := interruption_eq_some hinterrupted
      · cases hfault
      · rw [overrun_of_budget hbudget, decide_eq_true_iff] at hoverrun
        rw [timeoutFault_of_budget hbudget] at hfault
        cases hfault
        exact ⟨rfl, rfl, Nat.le_of_lt hoverrun⟩
    · cases hfault
  · rw [Session.now_eq_of_bare hbare]
    cases why with
    | cancelled => cases hfault
    | timedOut =>
      obtain ⟨d, hdeadline, hle⟩ := Session.le_of_pauseUntil_timedOut hpause
      rw [deadline_of_budget hbudget] at hdeadline
      cases hdeadline
      dsimp only [interruptionFault] at hfault
      rw [timeoutFault_of_budget hbudget] at hfault
      cases hfault
      exact ⟨rfl, rfl, hle⟩

/-! ## Runs whose calls do not occupy the clock -/

/-- A call of the run occupies the clock for a while. -/
def Occupies (op : Operator σ μ) (a : Alignment) (order : Order) (runId : RunId)
    (s : Session σ μ) : Prop :=
  ∃ steps st site input ms next t,
    op.InCall a order runId s steps st site input (.occupy ms next) t ∧ 0 < ms

/-- No run does so under a foundry whose callables do not. -/
theorem not_occupies (h : op.foundry.Yields) : ¬op.Occupies a order runId s := by
  rintro ⟨steps, st, site, input, ms, next, t, hcall, -⟩
  obtain ⟨events, henter, hcomes⟩ := hcall.comes
  exact (h.site henter).comes hcomes

/-- No moment of a call is later than the deadline. -/
theorem InCall.now_le {c : Call σ Answer} (hbudget : op.limits.timeoutMs = some b)
    (hfree : ¬op.Occupies a order runId s)
    (h : op.InCall a order runId s steps st site input c t) : t.now ≤ s.now + b.toNat := by
  obtain ⟨reach, check, events, enter, hcomes⟩ := h
  -- The moments before are moments of the same call, so none of them occupies the clock.
  induction hcomes with
  | begun =>
    have hbegun := now_le_of_uninterrupted hbudget (checkpoint_ok check).1
    rw [← Session.now_eq_of_bare (st.session.bare_sayAll events)] at hbegun
    exact hbegun
  | stored _ ih => exact ih
  | noted _ ih => exact ih
  | @cancelled next t _ ih =>
    have hsame : t.cancel.now = t.now := by
      unfold Session.cancel
      split <;> rfl
    exact hsame ▸ ih
  | woke _ pause ih =>
    rw [deadline_of_budget hbudget] at pause
    exact Session.pauseUntil_now_le ih pause
  | @occupied ms next t hbefore ih =>
    have hms : ms = 0 := Nat.eq_zero_of_not_pos fun hpos =>
      hfree ⟨steps, st, site, input, ms, next, t, ⟨reach, check, events, enter, hbefore⟩, hpos⟩
    rw [hms]
    exact ih

/-- Nothing in a run is later than its deadline. -/
theorem kept_now_le (hbudget : op.limits.timeoutMs = some b)
    (hfree : ¬op.Occupies a order runId s) :
    op.Kept a order runId s fun t => t.now ≤ s.now + b.toNat where
  bare hbare hle := by
    rw [Session.now_eq_of_bare hbare]
    exact hle
  begins := Nat.le_add_right _ _
  visit reach check visit hle := by
    obtain hbare | ⟨site, input, result, t, hcall, hbare⟩ |
      ⟨site, input, ms, next, t, why, hcall, hpause⟩ := visit.ends reach check
    · rw [Session.now_eq_of_bare hbare]
      exact hle
    · rw [Session.now_eq_of_bare hbare]
      exact hcall.now_le hbudget hfree
    · rw [deadline_of_budget hbudget] at hpause
      exact Session.pauseUntil_now_le (hcall.now_le hbudget hfree) hpause

/-- **A run keeps to its budget.**  Under a budget of `b` milliseconds
* a run that ends in an output or at its limit on steps took at most `b`
* a run that times out names `b` and the time it took, which is at least `b`
* all calls of a run are made within `b` from its start
* where no call occupies the clock, as when no callable can, a run takes at most `b` however it
  ends, and exactly `b` if it times out -/
theorem budget_guarantee (op : Operator σ μ) (b : UInt64) (hbudget : op.limits.timeoutMs = some b)
    (a : Alignment) (order : Order) (runId : RunId) (s : Session σ μ) :
    let report := (op.run a order runId s).1
    let after := (op.run a order runId s).2
    (∀ output, report.outcome = .ok output → report.elapsed ≤ b.toNat) ∧
    (∀ limit node, report.outcome = .error (.stepLimitExceeded limit node) →
      report.elapsed ≤ b.toNat) ∧
    (∀ elapsed budget, report.outcome = .error (.timeoutExceeded elapsed budget) →
      budget = b.toNat ∧ elapsed = report.elapsed ∧ b.toNat ≤ report.elapsed) ∧
    s.CallsWithin after s.now (s.now + b.toNat) ∧
    (op.foundry.Yields → ¬op.Occupies a order runId s) ∧
    (¬op.Occupies a order runId s →
      report.elapsed ≤ b.toNat ∧
        ∀ elapsed budget, report.outcome = .error (.timeoutExceeded elapsed budget) →
          elapsed = b.toNat) := by
  dsimp only
  rw [run_elapsed]
  have hlong {elapsed budget : Nat}
      (h : (op.run a order runId s).1.outcome = .error (.timeoutExceeded elapsed budget)) :
      budget = b.toNat ∧ elapsed = (op.run a order runId s).2.now - s.now ∧
        b.toNat ≤ (op.run a order runId s).2.now - s.now := by
    obtain ⟨hnamed, helapsed, hle⟩ := timeout_eq hbudget h
    exact ⟨hnamed, helapsed, by omega⟩
  refine ⟨fun output h => ?_, fun limit node h => ?_, fun elapsed budget => hlong,
    (kept_callsWithin hbudget a order runId s).run, not_occupies, fun hfree => ?_⟩
  · exact Nat.sub_le_iff_le_add'.2 (now_le_of_ok hbudget h)
  · exact Nat.sub_le_iff_le_add'.2 (now_le_of_limit hbudget h)
  · have hshort : (op.run a order runId s).2.now - s.now ≤ b.toNat :=
      Nat.sub_le_iff_le_add'.2 (kept_now_le hbudget hfree).run
    refine ⟨hshort, fun elapsed budget h => ?_⟩
    obtain ⟨-, helapsed, hle⟩ := hlong h
    omega

/-- The operator of the turnstile, in a hurry. -/
def hurried : Operator Unit Unit :=
  { idling with limits := { maxSteps := 10, timeoutMs := some 50 } }

/-- The idler only pauses. -/
theorem hurried_yields : hurried.foundry.Yields := by
  have hget (name : String) : hurried.foundry.get? name =
      if name = "idle" then some (.processor idler) else none := Named.get?_insert ∅ "idle" name _
  constructor
  · intro name processor h input
    unfold Foundry.processor? at h
    rw [hget] at h
    split at h
    · rename_i own heq
      cases h
      split at heq <;> cases heq
      trivial
    · cases h
  · intro name switcher h input
    unfold Foundry.switcher? at h
    rw [hget] at h
    split at h
    · rename_i own heq
      split at heq <;> cases heq
    · cases h

/-- The turnstile pauses for 20 milliseconds at each turn, so the third pause is cut short. -/
theorem budget_guarantee_turnstile :
    hurried.limits.timeoutMs = some 50 ∧
      (hurried.run turnstile ⟨"go", []⟩ (.ofNat 1) { store := (), kept := () }).1.outcome =
        .error (.timeoutExceeded 50 50) ∧
      50 ≤ (hurried.run turnstile ⟨"go", []⟩ (.ofNat 1) { store := (), kept := () }).1.elapsed ∧
      (hurried.run turnstile ⟨"go", []⟩ (.ofNat 1) { store := (), kept := () }).1.elapsed ≤ 50 := by
  have houtcome :
      (hurried.run turnstile ⟨"go", []⟩ (.ofNat 1) { store := (), kept := () }).1.outcome =
        .error (.timeoutExceeded 50 50) := by with_unfolding_all rfl
  obtain ⟨-, -, hlong, -, hfree, hshort⟩ :=
    budget_guarantee hurried 50 rfl turnstile ⟨"go", []⟩ (.ofNat 1) { store := (), kept := () }
  exact ⟨rfl, houtcome, (hlong 50 50 houtcome).2.2, (hshort (hfree hurried_yields)).1⟩

end Operator
end ApparatusGraph
