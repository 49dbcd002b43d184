/-
# Sessions

A session is what runs share with the world: the clock, the token that asks a run to
stop, what the callables have stored, what the medium keeps, the log, and the calls
that were made.

Time passes only inside calls.  A call that occupies the clock cannot be interrupted.
A call that pauses waits for the first of three things: the token, the deadline, the
end of the pause.  At one and the same moment the token comes before the deadline and
the deadline before the end of the pause; a token that is set already and a deadline
that has passed already come at the moment the pause begins.
-/

import ApparatusGraph.Call
import ApparatusGraph.Value.Json

namespace ApparatusGraph

/-- A call that was made: of which apparatus, with what, and when. -/
structure Invocation where
  apparatus : String
  input : Record
  time : Nat

/-- What runs share with the world; `σ` is what callables store, `μ` what the medium keeps. -/
structure Session (σ μ : Type) where
  /-- milliseconds -/
  now : Nat := 0
  /-- the token is set -/
  cancelled : Bool := false
  /-- callables can reach the token -/
  tokenShared : Bool := true
  /-- when the token will be set from outside, if a run is paused then -/
  cancelAt : Option Nat := none
  store : σ
  kept : μ
  log : Array Event := #[]
  invocations : Array Invocation := #[]

/-- Why a call was cut short. -/
inductive Interruption where
  | cancelled
  | timedOut
  deriving DecidableEq

/-- How the waiting for a call ended. -/
inductive Awaited (α : Type) where
  | answered (result : Except Failure α)
  | interrupted (why : Interruption)

namespace Session

variable {σ μ : Type}

/-- The session after an event was said. -/
def say (s : Session σ μ) (e : Event) : Session σ μ := { s with log := s.log.push e }

/-- The session after events were said in a row. -/
def sayAll (s : Session σ μ) (es : List Event) : Session σ μ := es.foldl say s

/-- The session after a call was made. -/
def invoke (s : Session σ μ) (apparatus : String) (input : Record) : Session σ μ :=
  { s with invocations := s.invocations.push ⟨apparatus, input, s.now⟩ }

/-- The session after a callable has asked for the run to stop. -/
def cancel (s : Session σ μ) : Session σ μ :=
  if s.tokenShared then { s with cancelled := true } else s

/-- When the token stops a pause that begins now. -/
def tokenTime (s : Session σ μ) : Option Nat :=
  if s.cancelled then some s.now else s.cancelAt.map (max s.now)

/-- The session at a later moment. -/
def goTo (s : Session σ μ) (time : Nat) : Session σ μ := { s with now := max s.now time }

/-- True when `time` is not after `other`, a moment that may never come. -/
def notAfter (time : Nat) : Option Nat → Bool
  | some other => time ≤ other
  | none => true

/-- Pauses until `wake` under a deadline: what interrupted the pause, if anything did, and the
session at that moment. -/
def pauseUntil (s : Session σ μ) (deadline : Option Nat) (wake : Nat) :
    Option Interruption × Session σ μ :=
  let due := deadline.map (max s.now)
  match s.tokenTime with
  | some t =>
    if notAfter t due && t ≤ wake then
      (some .cancelled, { s.goTo t with cancelled := true })
    else
      match due with
      | some d => if d ≤ wake then (some .timedOut, s.goTo d) else (none, s.goTo wake)
      | none => (none, s.goTo wake)
  | none =>
    match due with
    | some d => if d ≤ wake then (some .timedOut, s.goTo d) else (none, s.goTo wake)
    | none => (none, s.goTo wake)

/-- Sets the token, or plans for it to be set some milliseconds from now. -/
def planCancel (s : Session σ μ) : Option Nat → Session σ μ
  | some ms => { s with cancelAt := some (s.now + ms) }
  | none => { s with cancelled := true }

/-- Lets the clock run on to the moment planned for the token, and sets it. -/
def settle (s : Session σ μ) : Session σ μ :=
  match s.cancelAt with
  | some t => { s.goTo t with cancelled := true, cancelAt := none }
  | none => s

/-- The session with a token that is not set. -/
def withFreshToken (s : Session σ μ) : Session σ μ :=
  { s with cancelled := false, cancelAt := none }

/-- The session with a token that is not set and that nobody can set. -/
def withPrivateToken (s : Session σ μ) : Session σ μ :=
  { s with cancelled := false, cancelAt := none, tokenShared := false }

/-- The session with the token of another. -/
def withTokenOf (s t : Session σ μ) : Session σ μ :=
  { s with cancelled := t.cancelled, cancelAt := t.cancelAt, tokenShared := t.tokenShared }

end Session

namespace Call

variable {σ μ α : Type}

/-- Waits for the answer of a call under a deadline. -/
def await (deadline : Option Nat) : Call σ α → Session σ μ → Awaited α × Session σ μ
  | .answer result, s => (.answered result, s)
  | .store change next, s => (next s.store).await deadline { s with store := change s.store }
  | .pause ms next, s =>
    match s.pauseUntil deadline (s.now + ms) with
    | (some why, s) => (.interrupted why, s)
    | (none, s) => next.await deadline s
  | .occupy ms next, s => next.await deadline { s with now := s.now + ms }
  | .cancel next, s => next.await deadline s.cancel
  | .note event next, s => next.await deadline (s.say event)

/-- How far a call goes before it pauses: its answer, or the time of the pause and what comes
after. -/
inductive Progress (σ α : Type) where
  | answered (result : Except Failure α)
  | pausing (ms : Nat) (next : Call σ α)

/-- Goes on with a call until it pauses or answers. -/
def poll : Call σ α → Session σ μ → Progress σ α × Session σ μ
  | .answer result, s => (.answered result, s)
  | .store change next, s => (next s.store).poll { s with store := change s.store }
  | .pause ms next, s => (.pausing ms next, s)
  | .occupy ms next, s => next.poll { s with now := s.now + ms }
  | .cancel next, s => next.poll s.cancel
  | .note event next, s => next.poll (s.say event)

end Call
end ApparatusGraph
