/-
# Waiting for a call

What the rest of a run may rely on when it waits for a call:

* the answer of a call whose answers are mapped is the mapped answer (`Call.await_map`)
* what the medium keeps is as before (`Call.await_kept`)
* nothing depends on what the medium keeps or on what was said (`Call.await_bare`)

For the last, `Session.bare` is a session without these two parts.  Every operation on
sessions commutes with it.
-/

import ApparatusGraph.Run.Session

namespace ApparatusGraph

variable {σ μ ν α β : Type}

/-- The end of the waiting with its answer replaced by its image. -/
def Awaited.map (f : α → β) : Awaited α → Awaited β
  | .answered result => .answered (f <$> result)
  | .interrupted why => .interrupted why

/-- A mapped end of waiting is an answer when the end itself is, and that is mapped. -/
theorem Awaited.map_eq_answered {f : α → β} {x : Awaited α} {b : β}
    (h : x.map f = .answered (.ok b)) : ∃ a, x = .answered (.ok a) ∧ f a = b := by
  cases x with
  | interrupted why => cases h
  | answered result =>
    cases result with
    | error cause => cases h
    | ok a =>
      cases h
      exact ⟨a, rfl, rfl⟩

namespace Session

/-- The session without what the medium keeps and without what was said. -/
def bare (s : Session σ μ) : Session σ Unit := { s with kept := (), log := #[] }

@[simp] theorem bare_now (s : Session σ μ) : s.bare.now = s.now := rfl

/-- Sessions that differ in what was said and kept alone are of one time. -/
theorem now_eq_of_bare {s : Session σ μ} {t : Session σ ν} (h : s.bare = t.bare) : s.now = t.now :=
  congrArg Session.now h

@[simp] theorem bare_tokenTime (s : Session σ μ) : s.bare.tokenTime = s.tokenTime := rfl

@[simp] theorem bare_say (s : Session σ μ) (e : Event) : (s.say e).bare = s.bare := rfl

@[simp] theorem kept_say (s : Session σ μ) (e : Event) : (s.say e).kept = s.kept := rfl

@[simp] theorem now_say (s : Session σ μ) (e : Event) : (s.say e).now = s.now := rfl

/-- What is said changes only what was said. -/
@[simp]
theorem bare_sayAll (s : Session σ μ) (events : List Event) : (s.sayAll events).bare = s.bare := by
  induction events generalizing s with
  | nil => rfl
  | cons e rest ih => exact ih (s.say e)

/-- What is said leaves what is kept. -/
@[simp]
theorem kept_sayAll (s : Session σ μ) (events : List Event) : (s.sayAll events).kept = s.kept := by
  induction events generalizing s with
  | nil => rfl
  | cons e rest ih => exact ih (s.say e)

/-- A call is made in a session as in its bare form. -/
theorem bare_invoke (s : Session σ μ) (apparatus : String) (input : Record) :
    (s.invoke apparatus input).bare = s.bare.invoke apparatus input := rfl

/-- A call that is made leaves what is kept. -/
@[simp]
theorem kept_invoke (s : Session σ μ) (apparatus : String) (input : Record) :
    (s.invoke apparatus input).kept = s.kept := rfl

/-- A token is set in a session as in its bare form. -/
theorem bare_cancel (s : Session σ μ) : s.cancel.bare = s.bare.cancel := by
  unfold cancel bare
  split <;> rfl

/-- A token that is set leaves what is kept. -/
@[simp]
theorem kept_cancel (s : Session σ μ) : s.cancel.kept = s.kept := by
  unfold cancel
  split <;> rfl

/-- A pause goes in the bare form of a session as in the session. -/
theorem bare_pauseUntil (s : Session σ μ) (deadline : Option Nat) (wake : Nat) :
    s.bare.pauseUntil deadline wake =
      ((s.pauseUntil deadline wake).1, (s.pauseUntil deadline wake).2.bare) := by
  unfold pauseUntil
  rw [bare_tokenTime, bare_now]
  dsimp only
  repeat' split
  all_goals rfl

/-- A pause leaves what is kept. -/
theorem kept_pauseUntil (s : Session σ μ) (deadline : Option Nat) (wake : Nat) :
    (s.pauseUntil deadline wake).2.kept = s.kept := by
  unfold pauseUntil
  dsimp only
  repeat' split
  all_goals rfl

end Session

namespace Call

/-- Waiting for a mapped call is waiting for the call and mapping its answer. -/
theorem await_map (f : α → β) (deadline : Option Nat) (c : Call σ α) (s : Session σ μ) :
    (c.map f).await deadline s = ((c.await deadline s).1.map f, (c.await deadline s).2) := by
  induction c generalizing s with
  | answer result => rfl
  | store change next ih => exact ih s.store _
  | occupy ms next ih => exact ih _
  | cancel next ih => exact ih _
  | note event next ih => exact ih _
  | pause ms next ih =>
    rw [map, await, await]
    split
    · rfl
    · exact ih _

/-- Waiting for a call does not touch what the medium keeps. -/
theorem await_kept (deadline : Option Nat) (c : Call σ α) (s : Session σ μ) :
    (c.await deadline s).2.kept = s.kept := by
  induction c generalizing s with
  | answer result => rfl
  | store change next ih => exact ih s.store _
  | occupy ms next ih => exact ih _
  | cancel next ih => exact (ih _).trans s.kept_cancel
  | note event next ih => exact ih _
  | pause ms next ih =>
    have hkept := s.kept_pauseUntil deadline (s.now + ms)
    rw [await]
    split
    · rename_i why after hpause
      rw [hpause] at hkept
      exact hkept
    · rename_i after hpause
      rw [hpause] at hkept
      exact (ih _).trans hkept

/-- How the waiting for a call ends does not depend on what the medium keeps or on what was
said. -/
theorem await_bare (deadline : Option Nat) (c : Call σ α) {s : Session σ μ} {t : Session σ ν}
    (h : s.bare = t.bare) :
    (c.await deadline s).1 = (c.await deadline t).1 ∧
      (c.await deadline s).2.bare = (c.await deadline t).2.bare := by
  induction c generalizing s t with
  | answer result => exact ⟨rfl, h⟩
  | store change next ih =>
    have hstore : s.store = t.store := congrArg Session.store h
    rw [await, await, hstore]
    exact ih t.store (congrArg (fun u : Session σ Unit => { u with store := change t.store }) h)
  | occupy ms next ih =>
    exact ih (congrArg (fun u : Session σ Unit => { u with now := u.now + ms }) h)
  | cancel next ih =>
    refine ih ?_
    rw [Session.bare_cancel, Session.bare_cancel, h]
  | note event next ih => exact ih h
  | pause ms next ih =>
    have hpause := s.bare_pauseUntil deadline (s.now + ms)
    rw [h, show s.now = t.now from congrArg Session.now h, t.bare_pauseUntil] at hpause
    obtain ⟨hwhy, hafter⟩ := Prod.mk.inj hpause
    rw [await, await, show s.now = t.now from congrArg Session.now h]
    split <;> rename_i hs <;> split <;> rename_i ht <;> rw [hs, ht] at hwhy hafter
    · cases hwhy
      exact ⟨rfl, hafter.symm⟩
    · cases hwhy
    · cases hwhy
    · exact ih hafter.symm

end Call
end ApparatusGraph
