/-
# Runs under two budgets

Two runs that differ in their budget alone make the same turns until the sooner of their
deadlines stops one of them.  A run looks at its deadline in two places:

| place | the sooner deadline | the later one |
| --- | --- | --- |
| between two nodes | has not passed | has not passed either |
| while a call pauses | comes after the token or after the pause | comes after it too |

So the run with the smaller budget goes the way of the other one (`Runs.withBudget`), or it
times out at a stand of the other, whose registers it reports.  When the deadline cuts a
pause short, the other run is at that very pause and ends no earlier
(`Session.pauseUntil_sooner`); hence a run that is over before its deadline has not felt
it.  A run without a budget is the run with the latest deadline of all.
-/

import ApparatusGraph.Proofs.Run.Budget

namespace ApparatusGraph

variable {σ μ α : Type}

/-- A pause under the sooner of two deadlines ends as under the later, or times out by the time that
it ends under the later. -/
theorem Session.pauseUntil_sooner {d : Nat} {later : Option Nat}
    (hle : ∀ t, later = some t → d ≤ t) (s : Session σ μ) (wake : Nat) :
    s.pauseUntil (some d) wake = s.pauseUntil later wake ∨
      ∃ t, s.pauseUntil (some d) wake = (some .timedOut, t) ∧
        t.now ≤ (s.pauseUntil later wake).2.now := by
  obtain ⟨time, htoken, heq⟩ | ⟨own, hdeadline, heq⟩ | ⟨hunbroken, heq⟩ :=
    s.pauseUntil_cases (some d) wake
  · -- The token comes before the sooner deadline, hence before the later.
    have hwithin : s.TokenWithin later wake time := by
      refine ⟨htoken.comes, htoken.inTime, fun t ht => ?_⟩
      have hfirst := htoken.first d rfl
      have := hle t ht
      omega
    exact .inl (heq.trans hwithin.pauseUntil.symm)
  · obtain rfl : d = own := Option.some.inj hdeadline.comes
    refine .inr ⟨_, heq, ?_⟩
    have hintime := hdeadline.inTime
    obtain ⟨time, htoken, hlater⟩ | ⟨t, ht, hlater⟩ | ⟨-, hlater⟩ := s.pauseUntil_cases later wake <;>
      rw [hlater] <;> dsimp only [Session.goTo]
    · have hfirst := hdeadline.first time htoken.comes
      omega
    · have := hle t ht.comes
      omega
    · omega
  · have hwake := hunbroken.deadline d rfl
    obtain ⟨time, htoken, -⟩ | ⟨t, ht, -⟩ | ⟨-, hlater⟩ := s.pauseUntil_cases later wake
    · have hafter := hunbroken.token time htoken.comes
      have hintime := htoken.inTime
      omega
    · have := hle t ht.comes
      have hintime := ht.inTime
      omega
    · exact .inl (heq.trans hlater.symm)

/-- Waiting for a call under the sooner of two deadlines ends as under the later, or times out by
the time that it ends under the later. -/
theorem Call.await_sooner {d : Nat} {later : Option Nat} (hle : ∀ t, later = some t → d ≤ t)
    (c : Call σ α) (s : Session σ μ) :
    c.await (some d) s = c.await later s ∨
      ∃ t, c.await (some d) s = (.interrupted .timedOut, t) ∧ t.now ≤ (c.await later s).2.now := by
  induction c generalizing s with
  | answer result => exact .inl rfl
  | store change next ih => exact ih s.store _
  | occupy ms next ih => exact ih _
  | cancel next ih => exact ih _
  | note event next ih => exact ih _
  | pause ms next ih =>
    rw [await, await]
    obtain heq | ⟨t, heq, hnow⟩ := s.pauseUntil_sooner hle (s.now + ms)
    · rw [heq]
      rcases s.pauseUntil later (s.now + ms) with ⟨why?, after⟩
      cases why? with
      | some why => exact .inl rfl
      | none => exact ih after
    · refine .inr ⟨t, by rw [heq], Nat.le_trans hnow ?_⟩
      rcases s.pauseUntil later (s.now + ms) with ⟨why?, after⟩
      cases why? with
      | some why => exact Nat.le_refl _
      | none => exact (next.await_later later after).1.now

namespace Operator

/-- The operator with another budget, or with none. -/
def withBudget (op : Operator σ μ) (budget : Option UInt64) : Operator σ μ :=
  { op with limits := { op.limits with timeoutMs := budget } }

variable {op : Operator σ μ} {a : Alignment} {e : Errand} {order : Order} {runId : RunId}
  {s t : Session σ μ} {steps : List Step} {b : UInt64} {budget : Option UInt64}

/-! ## Turn by turn -/

/-- A greater budget has a later deadline. -/
theorem deadline_withBudget (op : Operator σ μ) (hle : ∀ b', budget = some b' → b ≤ b')
    (started : Nat) :
    ∀ d, (op.withBudget budget).deadline started = some d → started + b.toNat ≤ d := by
  intro d hd
  obtain ⟨b', hb', rfl⟩ := Option.map_eq_some_iff.1 hd
  have := UInt64.le_iff_toNat_le.1 (hle b' hb')
  omega

/-- A greater budget is not overrun where a smaller one is not. -/
theorem overrun_withBudget (hle : ∀ b', budget = some b' → b ≤ b') {started now : Nat}
    (h : (op.withBudget (some b)).overrun started now = false) :
    (op.withBudget budget).overrun started now = false := by
  rw [overrun_of_budget rfl, decide_eq_false_iff_not] at h
  unfold overrun
  split
  · rename_i d hd
    have := deadline_withBudget op hle started d hd
    exact decide_eq_false (by omega)
  · rfl

/-- A check under the smaller of two budgets is the check under the greater, or the budget has run
out. -/
theorem checkpoint_withBudget (op : Operator σ μ) (hle : ∀ b', budget = some b' → b ≤ b')
    (started : Nat) (n : Node) (p : Progress) (s : Session σ μ) :
    (op.withBudget (some b)).checkpoint started n p s =
        (op.withBudget budget).checkpoint started n p s ∨
      (op.withBudget (some b)).checkpoint started n p s =
        .error (.timeoutExceeded (s.now - started) b.toNat) := by
  unfold checkpoint interruption?
  by_cases hset : s.cancelled = true
  · rw [if_pos hset, if_pos hset]
    exact .inl rfl
  · rw [if_neg hset, if_neg hset]
    cases hover : (op.withBudget (some b)).overrun started s.now with
    | true => exact .inr rfl
    | false =>
      rw [overrun_withBudget hle hover]
      exact .inl rfl

/-- The time after a visit that comes to a call is the time after the call. -/
theorem visit_now (op : Operator σ μ) {p : Progress} {n : Node} {events : List Event}
    {site : Site σ} {input : Record} {r : Registers}
    (enter : n.enter op.foundry a e.order p.registers = (events, .ok (.calls site input), r)) :
    (op.visit a e p n s).2.2.now =
      ((site.call input).await (op.deadline e.started)
        ((s.sayAll events).invoke site.apparatus input)).2.now := by
  unfold visit
  rw [enter]
  dsimp only
  split
  · rename_i hawait
    rw [hawait]
  · rename_i hawait
    rw [hawait]
  · rename_i hawait
    rw [hawait]
    exact Session.now_eq_of_bare (Session.bare_sayAll _ _)

/-- A visit under the smaller of two budgets goes as under the greater, or times out by the time
that it ends under the greater. -/
theorem Visits.withBudget (hle : ∀ b', budget = some b' → b ≤ b') {p : Progress} {n : Node}
    {result : Except Fault (Visit a)} {r : Registers}
    (h : (op.withBudget (some b)).Visits a e p n s result r t) :
    (op.withBudget budget).Visits a e p n s result r t ∨
      result = .error (.timeoutExceeded (t.now - e.started) b.toNat) ∧
        t.now ≤ ((op.withBudget budget).visit a e p n s).2.2.now := by
  have hsooner {events : List Event} (site : Site σ) (input : Record) :=
    Call.await_sooner (deadline_withBudget op hle e.started) (site.call input)
      ((s.sayAll events).invoke site.apparatus input)
  cases h with
  | refused enter => exact .inl (.refused enter)
  | passed enter => exact .inl (.passed enter)
  | @interrupted events site input r why t enter await =>
    cases why with
    | timedOut =>
      refine .inr ⟨rfl, ?_⟩
      rw [visit_now (op.withBudget budget) enter]
      obtain heq | ⟨own, heq, hnow⟩ := hsooner site input
      · rw [← heq]
        exact Nat.le_of_eq (congrArg (·.2.now) await).symm
      · cases heq.symm.trans await
        exact hnow
    | cancelled =>
      obtain heq | ⟨own, heq, -⟩ := hsooner site input
      · have hvisit : (op.withBudget budget).Visits a e p n s _ r t :=
          .interrupted enter (heq.symm.trans await)
        exact .inl hvisit
      · cases heq.symm.trans await
  | @failed events site input r cause t enter await =>
    obtain heq | ⟨own, heq, -⟩ := hsooner site input
    · exact .inl (.failed enter (heq.symm.trans await))
    · cases heq.symm.trans await
  | @left events site input r answer t said result r' enter await leave =>
    obtain heq | ⟨own, heq, -⟩ := hsooner site input
    · exact .inl (.left enter (heq.symm.trans await) leave)
    · cases heq.symm.trans await

/-- A turn that goes on under the smaller of two budgets is the same turn under the greater. -/
theorem turn_withBudget (hle : ∀ b', budget = some b' → b ≤ b') {st : Stand σ μ a} {step : Step}
    {onward : Onward a} {p : Progress}
    (h : (op.withBudget (some b)).turn a e st = .completed step onward p t) :
    (op.withBudget budget).turn a e st = .completed step onward p t := by
  obtain ⟨admitted, v, registers, s', hcheck, hvisit, rfl, rfl, rfl, rfl⟩ := turn_completed h
  obtain hsame | hout :=
    checkpoint_withBudget op hle e.started (a.node st.place) st.progress st.session
  · obtain hvisit | ⟨hout, -⟩ := hvisit.withBudget hle
    · exact turn_of_complete (hsame.symm.trans hcheck) hvisit
    · cases hout
  · cases hout.symm.trans hcheck

/-! ## Runs -/

/-- A trail that fits into a budget fits into a longer one. -/
theorem Trail.withBudget (hle : ∀ b', budget = some b' → b ≤ b') {st st' : Stand σ μ a}
    (h : (op.withBudget (some b)).Trail a e st steps st') :
    (op.withBudget budget).Trail a e st steps st' := by
  induction h with
  | entry => exact .entry
  | onward trail turn ih => exact ih.onward (turn_withBudget hle turn)

/-- Budgets other than zero admit the same alignments. -/
theorem preflight_withBudget (hb : 1 ≤ b) (hle : ∀ b', budget = some b' → b ≤ b') (a : Alignment) :
    (op.withBudget (some b)).preflight a = (op.withBudget budget).preflight a := by
  have hb : b ≠ 0 := by
    rintro rfl
    exact absurd hb (by decide)
  have hsome : (op.withBudget (some b)).limits.timeoutMs ≠ some 0 := fun h => hb (Option.some.inj h)
  have hbudget : (op.withBudget budget).limits.timeoutMs ≠ some 0 := fun h =>
    hb (UInt64.le_zero_iff.1 (hle 0 h))
  have hlimits : (op.withBudget (some b)).limits.validate =
      (op.withBudget budget).limits.validate := by
    unfold Limits.validate
    rw [if_neg hsome, if_neg hbudget]
    rfl
  unfold preflight
  rw [hlimits]
  rfl

/-- A run stands under a longer budget wherever it stood before. -/
theorem Reaches.withBudget (hb : 1 ≤ b) (hle : ∀ b', budget = some b' → b ≤ b') {st : Stand σ μ a}
    (h : (op.withBudget (some b)).Reaches a order runId s steps st) :
    (op.withBudget budget).Reaches a order runId s steps st := by
  obtain ⟨place, hpreflight, htrail⟩ := h
  exact ⟨place, (preflight_withBudget hb hle a).symm.trans hpreflight, htrail.withBudget hle⟩

/-- **A run with a smaller budget is cut from a run with a greater one.**  It goes the way of the
other run, or it times out where the other run comes by too, with the registers that the other run
has there, and ends no later. -/
theorem Runs.withBudget (hb : 1 ≤ b) (hle : ∀ b', budget = some b' → b ≤ b')
    {x : Report × Session σ μ} (h : (op.withBudget (some b)).Runs a order runId s steps x) :
    (op.withBudget budget).Runs a order runId s steps x ∨
      ∃ st elapsed, (op.withBudget budget).Reaches a order runId s steps st ∧
        x.1.outcome = .error (.timeoutExceeded elapsed b.toNat) ∧
        x.1.registers = st.progress.registers ∧
        x.2.now ≤ ((op.withBudget budget).run a order runId s).2.now := by
  cases h with
  | refused preflight =>
    exact .inl (.refused ((preflight_withBudget hb hle a).symm.trans preflight))
  | @stopped steps st fault reach check =>
    have hreach := reach.withBudget hb hle
    obtain hsame | hout :=
      checkpoint_withBudget op hle s.now (a.node st.place) st.progress st.session
    · exact .inl (.stopped hreach (hsame.symm.trans check))
    · cases hout.symm.trans check
      exact .inr ⟨st, _, hreach, rfl, rfl, hreach.later_run.now⟩
  | @failed steps st admitted fault registers s' reach check visit =>
    have hreach := reach.withBudget hb hle
    obtain hsame | hout :=
      checkpoint_withBudget op hle s.now (a.node st.place) st.progress st.session
    · have hcheck := hsame.symm.trans check
      obtain hvisit | ⟨hout, hnow⟩ := visit.withBudget hle
      · exact .inl (.failed hreach hcheck hvisit)
      · cases hout
        have hregisters : registers = admitted.registers :=
          (visit.fails reach.sound (a.node_mem _)).1
        obtain ⟨-, -, rfl⟩ := checkpoint_ok check
        have hlater := (visits_visit _ a ⟨runId, order, s.now⟩ _ (a.node st.place)
          st.session).later_run hreach hcheck
        exact .inr ⟨st, _, hreach, rfl, hregisters, Nat.le_trans hnow hlater.now⟩
    · cases hout.symm.trans check
  | @arrived steps st step output p s' reach turn =>
    exact .inl (.arrived (reach.withBudget hb hle) (turn_withBudget hle turn))

/-- The same of what two runs report. -/
theorem report_withBudget (op : Operator σ μ) (hb : 1 ≤ b) (hle : ∀ b', budget = some b' → b ≤ b')
    (a : Alignment) (order : Order) (runId : RunId) (s : Session σ μ) :
    let r := ((op.withBudget (some b)).run a order runId s).1
    let u := ((op.withBudget budget).run a order runId s).1
    r = u ∨ ∃ elapsed steps st, r.outcome = .error (.timeoutExceeded elapsed b.toNat) ∧
      (op.withBudget budget).Reaches a order runId s steps st ∧ r.visited = steps.map (·.node) ∧
      r.registers = st.progress.registers ∧ r.elapsed ≤ u.elapsed := by
  obtain ⟨steps, hruns⟩ := (op.withBudget (some b)).exists_runs a order runId s
  obtain hsame | ⟨st, elapsed, hreach, houtcome, hregisters, hnow⟩ := hruns.withBudget hb hle
  · exact .inl (congrArg (·.1) hsame.eq_run)
  · refine .inr ⟨elapsed, steps, st, houtcome, hreach, hruns.visited, hregisters, ?_⟩
    rw [run_elapsed, run_elapsed]
    exact Nat.sub_le_sub_right hnow s.now

/-- **The budget of a run only truncates.**  With `u` the run without a budget and `r` the same run with
a budget of `b` milliseconds,
* `r` reports what `u` reports, or times out; then its nodes are the first of `u`, and its registers
  are those of `u` where `u` has visited just these nodes
* `r` reports what `u` reports if `u` takes less than `b`
* a run with a greater budget reports what `r` reports, unless `r` times out -/
theorem budget_truncates (op : Operator σ μ) (a : Alignment) (order : Order)
    (runId runId' : RunId) (s : Session σ μ) (b : UInt64) (hb : 1 ≤ b) :
    let u := ((op.withBudget none).run a order runId s).1
    let r := ((op.withBudget (some b)).run a order runId' s).1
    (r.Agrees u ∨
      ∃ elapsed, r.outcome = .error (.timeoutExceeded elapsed b.toNat) ∧ r.visited <+: u.visited ∧
        ∃ steps st, (op.withBudget none).Reaches a order runId s steps st ∧
          r.visited = steps.map (·.node) ∧ r.registers = st.progress.registers) ∧
    (u.elapsed < b.toNat → r.Agrees u) ∧
    ∀ (b' : UInt64) (runId'' : RunId), b ≤ b' →
      (∀ elapsed budget, r.outcome ≠ .error (.timeoutExceeded elapsed budget)) →
        ((op.withBudget (some b')).run a order runId'' s).1.Agrees r := by
  dsimp only
  have hown := (op.withBudget (some b)).report_agrees a order runId' runId s
  have hcut := report_withBudget op hb (fun _ h => nomatch h : ∀ b', none = some b' → b ≤ b')
    a order runId s
  dsimp only at hcut
  refine ⟨?truncated, fun hshort => ?felt, fun b' runId'' hle hkept => ?greater⟩
  case truncated =>
    obtain hsame | ⟨elapsed, steps, st, houtcome, hreach, hvisited, hregisters, -⟩ := hcut
    · rw [← hsame]
      exact .inl hown
    · have hprefix := hreach.visited_prefix
      rw [← hvisited, ← hown.visited] at hprefix
      exact .inr ⟨elapsed, hown.outcome.trans houtcome, hprefix, steps, st, hreach,
        hown.visited.trans hvisited, hown.registers.trans hregisters⟩
  case felt =>
    obtain hsame | ⟨elapsed, steps, st, houtcome, -, -, -, hnow⟩ := hcut
    · rw [← hsame]
      exact hown
    · obtain ⟨-, -, hlong⟩ := timeout_eq rfl houtcome
      rw [run_elapsed] at hnow
      omega
  case greater =>
    have hgreater : ∀ own, some b' = some own → b ≤ own := by
      rintro own ⟨⟩
      exact hle
    obtain hsame | ⟨elapsed, steps, st, houtcome, -⟩ :=
      report_withBudget op hb hgreater a order runId s
    · have hother := (op.withBudget (some b')).report_agrees a order runId'' runId s
      rw [← hsame] at hother
      exact hother.trans hown.symm
    · exact absurd (hown.outcome.trans houtcome) (hkept elapsed b.toNat)

/-- With 50 milliseconds the turnstile is cut in its third pause, where the run without a budget has
visited the same three nodes. -/
theorem budget_truncates_turnstile :
    (1 : UInt64) ≤ 50 ∧
      ((idling.withBudget (some 50)).run turnstile ⟨"go", []⟩ (.ofNat 2)
        { store := (), kept := () }).1.outcome = .error (.timeoutExceeded 50 50) ∧
      ∃ steps st, (idling.withBudget none).Reaches turnstile ⟨"go", []⟩ (.ofNat 1)
          { store := (), kept := () } steps st ∧
        ((idling.withBudget (some 50)).run turnstile ⟨"go", []⟩ (.ofNat 2)
          { store := (), kept := () }).1.visited = steps.map (·.node) := by
  have houtcome : ((idling.withBudget (some 50)).run turnstile ⟨"go", []⟩ (.ofNat 2)
      { store := (), kept := () }).1.outcome = .error (.timeoutExceeded 50 50) := by
    with_unfolding_all rfl
  have hfree : ((idling.withBudget none).run turnstile ⟨"go", []⟩ (.ofNat 1)
      { store := (), kept := () }).1.outcome = .error (.stepLimitExceeded 10 "turn") := by
    with_unfolding_all rfl
  obtain hsame | ⟨elapsed, -, -, steps, st, hreach, hvisited, -⟩ :=
    (budget_truncates idling turnstile ⟨"go", []⟩ (.ofNat 1) (.ofNat 2)
      { store := (), kept := () } 50 (by decide)).1
  · cases hfree.symm.trans (hsame.outcome.symm.trans houtcome)
  · exact ⟨by decide, houtcome, steps, st, hreach, hvisited⟩

end Operator
end ApparatusGraph
