/-
# Scripted apparatus

Callables given as data: a list of actions that are applied in order to a record,
which starts as the input and ends as the output.  A scripted switcher decides its
verdict from the input before the first action.

A verdict may go round a list of verdicts, one for each call.  Callables that do so
have a number of their own, and their store holds how often each number was called.
-/

import ApparatusGraph.Foundry.Draft

namespace ApparatusGraph

/-- How often the callable of each number was called. -/
abbrev Tally := Nat → Nat

namespace Script

/-- What a scripted callable does to its record, or besides. -/
inductive Action where
  | set (r : Record)
  | clear
  | remove (var : Var)
  /-- adds one to an integer, wrapping round; what is no integer counts as zero -/
  | increment (var : Var)
  /-- puts a text after a text; what is no text counts as empty -/
  | append (var : Var) (s : String)
  | copy (source target : Var)
  | pause (ms : Nat)
  | occupy (ms : Nat)
  | cancel
  | fail (cause : Failure)

/-- How a scripted switcher decides. -/
inductive Verdict where
  | always (b : Bool)
  /-- the integer of a var, zero if there is none, is below a number -/
  | below (var : Var) (n : Int64)
  /-- the flag of a var, false if there is none -/
  | flag (var : Var)
  | has (var : Var)
  /-- round a list, one for each call of the callable of this number -/
  | cycle (number : Nat) (verdicts : List Bool)

/-- The record with the entries of another over its own. -/
def overlay (r s : Record) : Record := s.entries.foldl (fun r (var, p) => r.insert var p) r

/-- The record after an action. -/
def Action.change (r : Record) : Action → Record
  | set s => overlay r s
  | clear => ∅
  | remove var => r.erase var
  | increment var =>
    r.insert var (.integer (((r.get? var).bind (·.value.integer?)).getD 0 + 1))
  | append var s => r.insert var (.text (((r.get? var).bind Param.text?).getD "" ++ s))
  | copy source target =>
    match r.get? source with
    | some p => r.insert target p
    | none => r
  | _ => r

variable {σ : Type}

/-- The call that applies actions in order. -/
def run (r : Record) : List Action → Call σ Record
  | [] => .ok r
  | .pause ms :: rest => .pause ms (run r rest)
  | .occupy ms :: rest => .occupy ms (run r rest)
  | .cancel :: rest => .cancel (run r rest)
  | .fail cause :: _ => .fail cause
  | action :: rest => run (action.change r) rest

/-- The verdict on a record for the call of number `k`, counted from zero. -/
def Verdict.decide (r : Record) (k : Nat) : Verdict → Bool
  | always b => b
  | below var n => ((r.get? var).bind (·.value.integer?)).getD 0 < n
  | flag var => ((r.get? var).bind (·.value.bool?)).getD false
  | has var => r.contains var
  | cycle _ verdicts => (verdicts[k % verdicts.length]?).getD false

/-- The callable of a scripted processor. -/
def process (actions : List Action) (input : Record) : Call Tally Record := run input actions

/-- The callable of a scripted switcher. -/
def check (verdict : Verdict) (actions : List Action) (input : Record) :
    Call Tally (Bool × Record) :=
  match verdict with
  | .cycle number _ =>
    .store (fun tally n => if n = number then tally n + 1 else tally n) fun tally =>
      (run input actions).map (verdict.decide input (tally number), ·)
  | _ => (run input actions).map (verdict.decide input 0, ·)

end Script
end ApparatusGraph
