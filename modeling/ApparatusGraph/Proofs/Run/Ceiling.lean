/-
# The ceiling on steps

The limit on steps is looked at last between two nodes and nowhere else, so two runs that
differ in that limit alone make the same turns as long as both are below it
(`Operator.turn_withCeiling`).  Under a limit `m` a run therefore is

* the run itself when that ends within `m` steps of its own accord
* otherwise its first `m` visits, and then the fault of the limit at the node that the
  run would have visited next

`Operator.ceiling_truncates` says both.  The visit that is refused is not counted, so the
cut falls where the counter stands at `m`: `Reaches.take` finds the stand, and that the
run was let through there says that neither the token nor the budget was in the way.
-/

import ApparatusGraph.Proofs.Run.Accounting
import ApparatusGraph.Proofs.Run.Declaration

namespace ApparatusGraph
namespace Operator

variable {σ μ : Type}

/-- The operator with another limit on steps. -/
def withCeiling (op : Operator σ μ) (m : UInt64) : Operator σ μ :=
  { op with limits := { op.limits with maxSteps := m } }

variable {op : Operator σ μ} {a : Alignment} {e : Errand} {order : Order} {runId : RunId}
  {s : Session σ μ} {steps : List Step} {m : UInt64}

/-- Interruptions do not depend on the limit on steps. -/
theorem interruption?_withCeiling (started count : Nat) (s : Session σ μ) :
    (op.withCeiling m).interruption? started count s = op.interruption? started count s := rfl

/-- Below both limits a check lets through under either what it lets through under the other. -/
theorem checkpoint_withCeiling {started : Nat} {n : Node} {p : Progress}
    (h : p.steps < op.limits.maxSteps) (hm : p.steps < m) :
    (op.withCeiling m).checkpoint started n p s = op.checkpoint started n p s := by
  have hm : ¬(op.withCeiling m).limits.maxSteps ≤ p.steps := UInt64.not_le.2 hm
  unfold checkpoint
  rw [interruption?_withCeiling, if_neg (UInt64.not_le.2 h), if_neg hm]

/-- At the limit a check refuses what nothing else stops. -/
theorem checkpoint_at_limit {started : Nat} {n : Node} {p : Progress}
    (hnone : op.interruption? started p.steps.toNat s = none) (hle : op.limits.maxSteps ≤ p.steps) :
    op.checkpoint started n p s =
      .error (.stepLimitExceeded op.limits.maxSteps.toNat n.label) := by
  unfold checkpoint
  rw [hnone]
  exact if_pos hle

/-- Below both limits a turn is the same turn. -/
theorem turn_withCeiling {st : Stand σ μ a} (h : st.progress.steps < op.limits.maxSteps)
    (hm : st.progress.steps < m) : (op.withCeiling m).turn a e st = op.turn a e st := by
  unfold turn
  dsimp only
  rw [checkpoint_withCeiling h hm]
  rfl

/-- A trail that does not go beyond a limit is a trail under that limit. -/
theorem Trail.withCeiling {st st' : Stand σ μ a} (h : op.Trail a e st steps st')
    (hle : st'.progress.steps ≤ m) : (op.withCeiling m).Trail a e st steps st' := by
  induction h with
  | entry => exact .entry
  | @onward steps st' step place p s trail turn ih =>
    obtain ⟨hlt, hcount⟩ := turn_completed_steps turn
    have hle := UInt64.le_iff_toNat_le.1 hle
    dsimp only at hle
    have hbelow : st'.progress.steps < m := UInt64.lt_iff_toNat_lt.2 (by omega)
    exact .onward (ih (UInt64.le_of_lt hbelow)) ((turn_withCeiling hlt hbelow).trans turn)

/-- Any limit but zero admits what is admitted under another. -/
theorem preflight_withCeiling {place : Fin a.size} (h : op.preflight a = .ok place) (hm : 1 ≤ m) :
    (op.withCeiling m).preflight a = .ok place := by
  obtain ⟨hlimits, hvalid, hentry⟩ := preflight_ok h
  have hm : (op.withCeiling m).limits.maxSteps ≠ 0 := by
    rintro (rfl : m = 0)
    exact absurd hm (by decide)
  have hlimits' : (op.withCeiling m).limits.validate = .ok () := by
    unfold Limits.validate at hlimits ⊢
    split at hlimits
    · cases hlimits
    · rw [if_neg hm]
      exact hlimits
  unfold preflight
  rw [hlimits', show a.validate (op.withCeiling m).foundry = .ok () from hvalid]
  dsimp only [bind, Except.bind]
  rw [hentry]

/-- A run stands wherever it stood under another limit, as far as its own limit goes. -/
theorem Reaches.withCeiling {st : Stand σ μ a} (h : op.Reaches a order runId s steps st) (hm : 1 ≤ m)
    (hle : steps.length ≤ m.toNat) : (op.withCeiling m).Reaches a order runId s steps st := by
  have hcount := h.length_steps
  obtain ⟨place, hpreflight, htrail⟩ := h
  exact ⟨place, preflight_withCeiling hpreflight hm,
    htrail.withCeiling (UInt64.le_iff_toNat_le.2 (by omega))⟩

/-- A run that counts more than `k` steps has come to the stand of its next step after `k` steps,
and the visit there is admitted. -/
theorem Runs.exists_admitted {x : Report × Session σ μ} (h : op.Runs a order runId s steps x) {k : Nat}
    (hk : k < x.1.steps) :
    ∃ st p, op.Reaches a order runId s (steps.take k) st ∧ k ≤ steps.length ∧
      op.checkpoint s.now (a.node st.place) st.progress st.session = .ok p := by
  -- The visit after all steps that led to a stand is looked at apart from those before it.
  have hreached {steps : List Step} {st : Stand σ μ a} {p : Progress}
      (reach : op.Reaches a order runId s steps st)
      (check : op.checkpoint s.now (a.node st.place) st.progress st.session = .ok p)
      (hk : k ≤ steps.length) :
      ∃ st p, op.Reaches a order runId s (steps.take k) st ∧
        op.checkpoint s.now (a.node st.place) st.progress st.session = .ok p := by
    rcases Nat.lt_or_eq_of_le hk with hlt | rfl
    · exact reach.take hlt
    · rw [List.take_length]
      exact ⟨st, p, reach, check⟩
  cases h with
  | refused preflight => exact absurd hk (Nat.not_lt_zero k)
  | @stopped steps st fault reach check =>
    have hlt : k < steps.length := reach.length_steps ▸ hk
    obtain ⟨mid, p, hmid, hcheck⟩ := reach.take hlt
    exact ⟨mid, p, hmid, Nat.le_of_lt hlt, hcheck⟩
  | @failed steps st admitted fault registers s' reach check visit =>
    have hle : k ≤ steps.length := by
      have hk : k < admitted.steps.toNat := hk
      rw [(reach.counted check).1] at hk
      exact Nat.le_of_lt_succ hk
    obtain ⟨mid, p, hmid, hcheck⟩ := hreached reach check hle
    exact ⟨mid, p, hmid, hle, hcheck⟩
  | @arrived steps st step output p s' reach turn =>
    obtain ⟨admitted, v, registers, after, check, -, -, -, -, -⟩ := turn_completed turn
    have hle : k ≤ steps.length := by
      have hk : k < p.steps.toNat := hk
      rw [(turn_completed_steps turn).2, reach.length_steps] at hk
      exact Nat.le_of_lt_succ hk
    obtain ⟨mid, p, hmid, hcheck⟩ := hreached reach check hle
    rw [List.take_append_of_le_length hle, List.length_append]
    exact ⟨mid, p, hmid, Nat.le_add_right_of_le hle, hcheck⟩

/-- A run that ends within a limit, and not because of its own, goes the same way under that
limit. -/
theorem Runs.withCeiling {x : Report × Session σ μ} (h : op.Runs a order runId s steps x)
    (hadmits : op.Admits a) (hm : 1 ≤ m) (hle : x.1.steps ≤ m.toNat)
    (hown : ∀ limit node, x.1.outcome ≠ .error (.stepLimitExceeded limit node)) :
    (op.withCeiling m).Runs a order runId s steps x := by
  cases h with
  | refused preflight =>
    obtain ⟨place, hplace⟩ := preflight_ok_iff.2 hadmits
    rw [preflight] at hplace
    cases hplace
  | @stopped steps st fault reach check =>
    have hlength : steps.length ≤ m.toNat := reach.length_steps ▸ hle
    refine .stopped (reach.withCeiling hm hlength) ?_
    obtain hinterrupted | ⟨-, -, rfl⟩ := checkpoint_refuses check
    · unfold checkpoint
      rw [interruption?_withCeiling, hinterrupted]
    · exact absurd rfl (hown _ _)
  | @failed steps st admitted fault registers s' reach check visit =>
    have hsteps : admitted.steps.toNat ≤ m.toNat := hle
    rw [(reach.counted check).1] at hsteps
    have hbelow : st.progress.steps < m :=
      UInt64.lt_iff_toNat_lt.2 (by rw [reach.length_steps]; omega)
    have hturn := turn_of_visit (e := ⟨runId, order, s.now⟩) check visit
    rw [← turn_withCeiling (checkpoint_ok check).2.1 hbelow] at hturn
    exact (reach.withCeiling hm (by omega)).runs_halted hturn
  | @arrived steps st step output p s' reach turn =>
    obtain ⟨hlt, hcount⟩ := turn_completed_steps turn
    have hsteps : p.steps.toNat ≤ m.toNat := hle
    have hlength := reach.length_steps
    have hbelow : st.progress.steps < m := UInt64.lt_iff_toNat_lt.2 (by omega)
    rw [← turn_withCeiling hlt hbelow] at turn
    exact .arrived (reach.withCeiling hm (by omega)) turn

/-- **The ceiling on steps only truncates.**  Under a limit `m`, a run that would go on beyond `m`
steps is its first `m` visits, refused at the node whose visit would have been admitted next; a run
that ends within `m` steps, and not because of its own limit, is the same run. -/
theorem ceiling_truncates (op : Operator σ μ) (a : Alignment) (hadmits : op.Admits a) (m : UInt64)
    (hm : 1 ≤ m) (order : Order) (runId runId' : RunId) (s : Session σ μ) :
    let r := (op.run a order runId s).1
    let r' := ((op.withCeiling m).run a order runId' s).1
    (m.toNat < r.steps →
      r'.steps = m.toNat ∧ r'.visited = r.visited.take m.toNat ∧
        ∃ steps st p, op.Reaches a order runId s steps st ∧ steps.length = m.toNat ∧
          op.checkpoint s.now (a.node st.place) st.progress st.session = .ok p ∧
          p.steps.toNat = m.toNat + 1 ∧
          r'.outcome = .error (.stepLimitExceeded m.toNat (a.node st.place).label) ∧
          r'.registers = st.progress.registers) ∧
    (r.steps ≤ m.toNat →
      (∀ limit node, r.outcome ≠ .error (.stepLimitExceeded limit node)) →
        r'.outcome = r.outcome ∧ r'.registers = r.registers ∧ r'.visited = r.visited ∧
          r'.steps = r.steps ∧ r'.elapsed = r.elapsed) := by
  obtain ⟨steps, hruns⟩ := op.exists_runs a order runId s
  have hown := (op.withCeiling m).report_agrees a order runId' runId s
  dsimp only
  rw [hown.outcome, hown.registers, hown.visited, hown.steps, hown.elapsed]
  refine ⟨fun hbeyond => ?_, fun hwithin hlimit => ?_⟩
  · obtain ⟨st, p, hreach, hlength, hcheck⟩ := hruns.exists_admitted hbeyond
    have hcount : (steps.take m.toNat).length = m.toNat := List.length_take_of_le hlength
    have hcapped : (op.withCeiling m).checkpoint s.now (a.node st.place) st.progress st.session =
        .error (.stepLimitExceeded m.toNat (a.node st.place).label) :=
      checkpoint_at_limit (checkpoint_ok hcheck).1
        (UInt64.le_iff_toNat_le.2 (Nat.le_of_eq (hreach.length_steps.trans hcount).symm))
    have hcut := hreach.withCeiling hm (Nat.le_of_eq hcount)
    rw [← (Runs.stopped hcut hcapped).eq_run, hruns.visited, ← List.map_take]
    refine ⟨hreach.length_steps.trans hcount, hreach.visited, _, st, p, hreach, hcount, hcheck, ?_,
      rfl, rfl⟩
    rw [(hreach.counted hcheck).1, hcount]
  · rw [← (hruns.withCeiling hadmits hm hwithin hlimit).eq_run]
    exact ⟨rfl, rfl, rfl, rfl, rfl⟩

/-- Ten turns of the turnstile, cut after three. -/
theorem ceiling_truncates_turnstile :
    idling.Admits turnstile ∧ (1 : UInt64) ≤ 3 ∧
      3 < (idling.run turnstile ⟨"go", []⟩ (.ofNat 1) { store := (), kept := () }).1.steps ∧
      ((idling.withCeiling 3).run turnstile ⟨"go", []⟩ (.ofNat 2)
        { store := (), kept := () }).1.visited =
          (idling.run turnstile ⟨"go", []⟩ (.ofNat 1)
            { store := (), kept := () }).1.visited.take 3 :=
  ⟨⟨by rfl, by rfl⟩, by decide, by decide +kernel,
    ((ceiling_truncates idling turnstile ⟨by rfl, by rfl⟩ 3 (by decide) ⟨"go", []⟩ (.ofNat 1)
      (.ofNat 2) { store := (), kept := () }).1 (by decide +kernel)).2.1⟩

end Operator
end ApparatusGraph
