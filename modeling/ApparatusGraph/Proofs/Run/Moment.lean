/-
# The moments of a call

A call that is waited for goes from moment to moment, one action at a time.
`Call.Comes` lists the moments: what is left of the call, and the session by then.  The
waiting ends at a moment with an answer or at a pause that is interrupted
(`Call.exists_comes_last`), and `Session.pauseUntil_cases` says which of three things a
pause comes to:

| pause | the token | the deadline |
| --- | --- | --- |
| cut short by the token | comes within the pause | does not come before the token |
| cut short by the deadline | does not come by then | comes within the pause |
| over | does not come by its end | does not come by its end |

From moment to moment the clock does not go back, a token that is set stays set, and no
call is made (`Call.Comes.later`, `Call.Comes.invocations`).
-/

import ApparatusGraph.Proofs.Run.Await

namespace ApparatusGraph

variable {σ μ α : Type}

namespace Session

/-- What time does to a session, whatever is done meanwhile. -/
structure Later (s s' : Session σ μ) : Prop where
  now : s.now ≤ s'.now
  cancelled : s.cancelled = true → s'.cancelled = true
  cancelAt : s'.cancelAt = s.cancelAt
  tokenShared : s'.tokenShared = s.tokenShared

namespace Later

variable {s s' s'' : Session σ μ}

theorem refl (s : Session σ μ) : s.Later s := ⟨Nat.le_refl _, id, rfl, rfl⟩

theorem trans (h : s.Later s') (h' : s'.Later s'') : s.Later s'' :=
  ⟨Nat.le_trans h.now h'.now, h'.cancelled ∘ h.cancelled, h'.cancelAt.trans h.cancelAt,
    h'.tokenShared.trans h.tokenShared⟩

/-- Sessions that differ in what was said and kept alone are of one time. -/
theorem of_bare (h : s'.bare = s.bare) : s.Later s' where
  now := Nat.le_of_eq (now_eq_of_bare h).symm
  cancelled hs := (congrArg Session.cancelled h).trans hs
  cancelAt := (congrArg Session.cancelAt h : s'.bare.cancelAt = s.bare.cancelAt)
  tokenShared := (congrArg Session.tokenShared h : s'.bare.tokenShared = s.bare.tokenShared)

end Later

/-- Setting the token takes no time. -/
theorem later_cancel (s : Session σ μ) : s.Later s.cancel := by
  unfold cancel
  split
  · exact ⟨Nat.le_refl _, fun _ => rfl, rfl, rfl⟩
  · exact .refl s

/-- Setting the token makes no call. -/
theorem invocations_cancel (s : Session σ μ) : s.cancel.invocations = s.invocations := by
  unfold cancel
  split <;> rfl

/-- Going to a moment does not go back. -/
theorem later_goTo (s : Session σ μ) (time : Nat) : s.Later (s.goTo time) :=
  ⟨Nat.le_max_left _ _, id, rfl, rfl⟩

/-- Making a call takes no time. -/
theorem later_invoke (s : Session σ μ) (apparatus : String) (input : Record) :
    s.Later (s.invoke apparatus input) := ⟨Nat.le_refl _, id, rfl, rfl⟩

/-! ## Pauses -/

/-- The moment of the token is not in the past. -/
theorem now_le_tokenTime {s : Session σ μ} {t : Nat} (h : s.tokenTime = some t) : s.now ≤ t := by
  unfold tokenTime at h
  split at h
  · cases h
    exact Nat.le_refl _
  · obtain ⟨planned, -, rfl⟩ := Option.map_eq_some_iff.1 h
    exact Nat.le_max_left _ _

/-- A token that is set stops a pause at once. -/
theorem tokenTime_of_cancelled {s : Session σ μ} (h : s.cancelled = true) :
    s.tokenTime = some s.now := if_pos h

/-- The token comes within a pause that begins now and lasts until `wake`, and the deadline does not
come before it. -/
structure TokenWithin (s : Session σ μ) (deadline : Option Nat) (wake time : Nat) : Prop where
  comes : s.tokenTime = some time
  inTime : time ≤ wake
  first : ∀ d, deadline = some d → time ≤ max s.now d

/-- The deadline comes within a pause that begins now and lasts until `wake`, and the token comes
later. -/
structure DeadlineWithin (s : Session σ μ) (deadline : Option Nat) (wake d : Nat) : Prop where
  comes : deadline = some d
  inTime : max s.now d ≤ wake
  first : ∀ t, s.tokenTime = some t → max s.now d < t

/-- A pause that begins now and lasts until `wake` is over before the token or the deadline
comes. -/
structure Unbroken (s : Session σ μ) (deadline : Option Nat) (wake : Nat) : Prop where
  token : ∀ t, s.tokenTime = some t → wake < t
  deadline : ∀ d, deadline = some d → wake < max s.now d

/-- A time is not after a moment that never comes, nor after one that is not before it. -/
theorem notAfter_iff {time : Nat} {other : Option Nat} :
    notAfter time other = true ↔ ∀ t, other = some t → time ≤ t := by
  cases other with
  | none => simp [notAfter]
  | some t => simp [notAfter]

/-- The token cuts a pause short. -/
theorem TokenWithin.pauseUntil {s : Session σ μ} {deadline : Option Nat} {wake time : Nat}
    (h : s.TokenWithin deadline wake time) :
    s.pauseUntil deadline wake = (some .cancelled, { s.goTo time with cancelled := true }) := by
  have hfirst : notAfter time (deadline.map (max s.now)) = true := by
    refine notAfter_iff.2 fun t ht => ?_
    obtain ⟨d, hd, rfl⟩ := Option.map_eq_some_iff.1 ht
    exact h.first d hd
  unfold Session.pauseUntil
  dsimp only
  rw [h.comes]
  dsimp only
  rw [if_pos (by simpa [hfirst] using h.inTime)]

/-- **A pause comes to one of three things.** -/
theorem pauseUntil_cases (s : Session σ μ) (deadline : Option Nat) (wake : Nat) :
    (∃ time, s.TokenWithin deadline wake time ∧
      s.pauseUntil deadline wake = (some .cancelled, { s.goTo time with cancelled := true })) ∨
    (∃ d, s.DeadlineWithin deadline wake d ∧
      s.pauseUntil deadline wake = (some .timedOut, s.goTo (max s.now d))) ∨
    s.Unbroken deadline wake ∧ s.pauseUntil deadline wake = (none, s.goTo wake) := by
  by_cases htoken : ∃ time, s.TokenWithin deadline wake time
  · obtain ⟨time, htime⟩ := htoken
    exact .inl ⟨time, htime, htime.pauseUntil⟩
  · -- Without the token only the deadline is left to look at.
    cases deadline with
    | none =>
      have hlater (t : Nat) (ht : s.tokenTime = some t) : wake < t :=
        Nat.lt_of_not_le fun hle => htoken ⟨t, ht, hle, nofun⟩
      have hrest : s.pauseUntil none wake = (none, s.goTo wake) := by
        unfold Session.pauseUntil
        dsimp only [Option.map]
        split
        · rename_i t ht
          have hnot : (notAfter t none && decide (t ≤ wake)) = false := by
            simpa [notAfter] using hlater t ht
          rw [hnot]
          rfl
        · rfl
      exact .inr (.inr ⟨⟨hlater, nofun⟩, hrest⟩)
    | some d =>
      have hlater (t : Nat) (ht : s.tokenTime = some t) : wake < t ∨ max s.now d < t := by
        by_cases hwake : wake < t
        · exact .inl hwake
        · refine .inr (Nat.lt_of_not_le fun hle => htoken ⟨t, ht, Nat.not_lt.1 hwake, ?_⟩)
          rintro own ⟨⟩
          exact hle
      have hrest : s.pauseUntil (some d) wake =
          if max s.now d ≤ wake then (some .timedOut, s.goTo (max s.now d))
          else (none, s.goTo wake) := by
        unfold Session.pauseUntil
        dsimp only [Option.map]
        split
        · rename_i t ht
          have hnot : (notAfter t (some (max s.now d)) && decide (t ≤ wake)) = false := by
            have := hlater t ht
            simp only [notAfter, Bool.and_eq_false_iff, decide_eq_false_iff_not]
            omega
          rw [hnot]
          rfl
        · rfl
      by_cases hd : max s.now d ≤ wake
      · rw [if_pos hd] at hrest
        refine .inr (.inl ⟨d, ⟨rfl, hd, fun t ht => ?_⟩, hrest⟩)
        have := hlater t ht
        omega
      · rw [if_neg hd] at hrest
        refine .inr (.inr ⟨⟨fun t ht => ?_, ?_⟩, hrest⟩)
        · have := hlater t ht
          omega
        · rintro own ⟨⟩
          exact Nat.lt_of_not_le hd

/-- A pause that begins by the deadline ends by the deadline. -/
theorem pauseUntil_now_le {s t : Session σ μ} {wake d : Nat} {why? : Option Interruption}
    (hle : s.now ≤ d) (h : s.pauseUntil (some d) wake = (why?, t)) : t.now ≤ d := by
  obtain ⟨time, htoken, heq⟩ | ⟨own, hdeadline, heq⟩ | ⟨hunbroken, heq⟩ :=
    s.pauseUntil_cases (some d) wake <;> rw [h] at heq <;> cases heq <;>
    refine Nat.max_le.2 ⟨hle, ?_⟩
  · have hfirst := htoken.first d rfl
    omega
  · obtain rfl : d = own := Option.some.inj hdeadline.comes
    exact Nat.max_le.2 ⟨hle, Nat.le_refl d⟩
  · have hbefore := hunbroken.deadline d rfl
    omega

/-- A pause that times out ends at the deadline or after it. -/
theorem le_of_pauseUntil_timedOut {s t : Session σ μ} {deadline : Option Nat} {wake : Nat}
    (h : s.pauseUntil deadline wake = (some .timedOut, t)) : ∃ d, deadline = some d ∧ d ≤ t.now := by
  obtain ⟨time, -, heq⟩ | ⟨d, hdeadline, heq⟩ | ⟨-, heq⟩ := s.pauseUntil_cases deadline wake <;>
    rw [h] at heq <;> cases heq
  exact ⟨d, hdeadline.comes, Nat.le_trans (Nat.le_max_right _ _) (Nat.le_max_right _ _)⟩

/-- The token is set after a pause that it cut short. -/
theorem cancelled_of_pauseUntil {s t : Session σ μ} {deadline : Option Nat} {wake : Nat}
    (h : s.pauseUntil deadline wake = (some .cancelled, t)) : t.cancelled = true := by
  obtain ⟨time, -, heq⟩ | ⟨d, -, heq⟩ | ⟨-, heq⟩ := s.pauseUntil_cases deadline wake <;>
    rw [h] at heq <;> cases heq
  rfl

/-- Time does not go back in a pause. -/
theorem later_pauseUntil (s : Session σ μ) (deadline : Option Nat) (wake : Nat) :
    s.Later (s.pauseUntil deadline wake).2 := by
  obtain ⟨time, -, heq⟩ | ⟨d, -, heq⟩ | ⟨-, heq⟩ := s.pauseUntil_cases deadline wake <;> rw [heq]
  · exact ⟨Nat.le_max_left _ _, fun _ => rfl, rfl, rfl⟩
  · exact s.later_goTo _
  · exact s.later_goTo _

/-- A pause makes no call. -/
theorem invocations_pauseUntil (s : Session σ μ) (deadline : Option Nat) (wake : Nat) :
    (s.pauseUntil deadline wake).2.invocations = s.invocations := by
  obtain ⟨time, -, heq⟩ | ⟨d, -, heq⟩ | ⟨-, heq⟩ := s.pauseUntil_cases deadline wake <;>
    rw [heq] <;> rfl

end Session

namespace Call

variable {deadline : Option Nat} {c c' c'' : Call σ α} {s s' s'' : Session σ μ}

/-- A call that is waited for from `s` on comes to a moment: what is left of it, and the session by
then. -/
inductive Comes (deadline : Option Nat) (c : Call σ α) (s : Session σ μ) :
    Call σ α → Session σ μ → Prop where
  | begun : Comes deadline c s c s
  | stored {change next t} (h : Comes deadline c s (.store change next) t) :
      Comes deadline c s (next t.store) { t with store := change t.store }
  | woke {ms next t t'} (h : Comes deadline c s (.pause ms next) t)
      (pause : t.pauseUntil deadline (t.now + ms) = (none, t')) : Comes deadline c s next t'
  | occupied {ms next t} (h : Comes deadline c s (.occupy ms next) t) :
      Comes deadline c s next { t with now := t.now + ms }
  | cancelled {next t} (h : Comes deadline c s (.cancel next) t) : Comes deadline c s next t.cancel
  | noted {event next t} (h : Comes deadline c s (.note event next) t) :
      Comes deadline c s next (t.say event)

namespace Comes

theorem trans (h : c.Comes deadline s c' s') (h' : c'.Comes deadline s' c'' s'') :
    c.Comes deadline s c'' s'' := by
  induction h' with
  | begun => exact h
  | stored _ ih => exact ih.stored
  | woke _ pause ih => exact ih.woke pause
  | occupied _ ih => exact ih.occupied
  | cancelled _ ih => exact ih.cancelled
  | noted _ ih => exact ih.noted

/-- From every moment on the waiting ends the same way. -/
theorem await_eq (h : c.Comes deadline s c' s') : c.await deadline s = c'.await deadline s' := by
  induction h with
  | begun => rfl
  | stored _ ih => exact ih
  | occupied _ ih => exact ih
  | cancelled _ ih => exact ih
  | noted _ ih => exact ih
  | woke _ pause ih =>
    rw [ih, await, pause]

/-- Time does not go back within a call. -/
theorem later (h : c.Comes deadline s c' s') : s.Later s' := by
  induction h with
  | begun => exact .refl s
  | stored _ ih => exact ih.trans ⟨Nat.le_refl _, id, rfl, rfl⟩
  | occupied _ ih => exact ih.trans ⟨Nat.le_add_right _ _, id, rfl, rfl⟩
  | cancelled _ ih => exact ih.trans (Session.later_cancel _)
  | noted _ ih => exact ih.trans ⟨Nat.le_refl _, id, rfl, rfl⟩
  | @woke ms next t t' _ pause ih =>
    have hlater := t.later_pauseUntil deadline (t.now + ms)
    rw [pause] at hlater
    exact ih.trans hlater

/-- No call is made within a call. -/
theorem invocations (h : c.Comes deadline s c' s') : s'.invocations = s.invocations := by
  induction h with
  | begun => rfl
  | stored _ ih => exact ih
  | occupied _ ih => exact ih
  | cancelled _ ih => exact (Session.invocations_cancel _).trans ih
  | noted _ ih => exact ih
  | @woke ms next t t' _ pause ih =>
    have hsame := t.invocations_pauseUntil deadline (t.now + ms)
    rw [pause] at hsame
    exact hsame.trans ih

end Comes

/-- **The waiting for a call comes to a last moment:** an answer, or a pause that is interrupted. -/
theorem exists_comes_last (deadline : Option Nat) (c : Call σ α) (s : Session σ μ) :
    (∃ result t, c.Comes deadline s (.answer result) t ∧
      c.await deadline s = (.answered result, t)) ∨
    ∃ ms next t why t', c.Comes deadline s (.pause ms next) t ∧
      t.pauseUntil deadline (t.now + ms) = (some why, t') ∧
      c.await deadline s = (.interrupted why, t') := by
  -- One action is put before what the rest of the call comes to.
  have before {c c' : Call σ α} {s s' : Session σ μ} (h : c.Comes deadline s c' s')
      (hlast : (∃ result t, c'.Comes deadline s' (.answer result) t ∧
          c'.await deadline s' = (.answered result, t)) ∨
        ∃ ms next t why t', c'.Comes deadline s' (.pause ms next) t ∧
          t.pauseUntil deadline (t.now + ms) = (some why, t') ∧
          c'.await deadline s' = (.interrupted why, t')) :
      (∃ result t, c.Comes deadline s (.answer result) t ∧
        c.await deadline s = (.answered result, t)) ∨
      ∃ ms next t why t', c.Comes deadline s (.pause ms next) t ∧
        t.pauseUntil deadline (t.now + ms) = (some why, t') ∧
        c.await deadline s = (.interrupted why, t') := by
    rw [h.await_eq]
    obtain ⟨result, t, hcomes, hawait⟩ | ⟨ms, next, t, why, t', hcomes, hpause, hawait⟩ := hlast
    · exact .inl ⟨result, t, h.trans hcomes, hawait⟩
    · exact .inr ⟨ms, next, t, why, t', h.trans hcomes, hpause, hawait⟩
  induction c generalizing s with
  | answer result => exact .inl ⟨result, s, .begun, rfl⟩
  | store change next ih => exact before (.stored .begun) (ih s.store _)
  | occupy ms next ih => exact before (.occupied .begun) (ih _)
  | cancel next ih => exact before (.cancelled .begun) (ih _)
  | note event next ih => exact before (.noted .begun) (ih _)
  | pause ms next ih =>
    rcases hpause : s.pauseUntil deadline (s.now + ms) with ⟨why?, s'⟩
    cases why? with
    | none => exact before (.woke .begun hpause) (ih s')
    | some why =>
      refine .inr ⟨ms, next, s, why, s', .begun, hpause, ?_⟩
      rw [await, hpause]

/-- A call that is answered has come to the answer. -/
theorem comes_of_answered {result : Except Failure α}
    (h : c.await deadline s = (.answered result, s')) : c.Comes deadline s (.answer result) s' := by
  obtain ⟨own, t, hcomes, hawait⟩ | ⟨ms, next, t, why, t', -, -, hawait⟩ :=
    exists_comes_last deadline c s <;> rw [h] at hawait <;> cases hawait
  exact hcomes

/-- A call that is cut short has come to a pause that was interrupted. -/
theorem comes_of_interrupted {why : Interruption} (h : c.await deadline s = (.interrupted why, s')) :
    ∃ ms next t, c.Comes deadline s (.pause ms next) t ∧
      t.pauseUntil deadline (t.now + ms) = (some why, s') := by
  obtain ⟨own, t, -, hawait⟩ | ⟨ms, next, t, own, t', hcomes, hpause, hawait⟩ :=
    exists_comes_last deadline c s <;> rw [h] at hawait <;> cases hawait
  exact ⟨ms, next, t, hcomes, hpause⟩

/-- What waiting for a call does to the session. -/
theorem await_later (deadline : Option Nat) (c : Call σ α) (s : Session σ μ) :
    s.Later (c.await deadline s).2 ∧ (c.await deadline s).2.invocations = s.invocations := by
  obtain ⟨result, t, hcomes, hawait⟩ | ⟨ms, next, t, why, t', hcomes, hpause, hawait⟩ :=
    exists_comes_last deadline c s <;> rw [hawait]
  · exact ⟨hcomes.later, hcomes.invocations⟩
  · have hlater := t.later_pauseUntil deadline (t.now + ms)
    have hsame := t.invocations_pauseUntil deadline (t.now + ms)
    rw [hpause] at hlater hsame
    exact ⟨hcomes.later.trans hlater, hsame.trans hcomes.invocations⟩

end Call
end ApparatusGraph
