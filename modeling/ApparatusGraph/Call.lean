/-
# Calls

A call is what a callable does between being called and answering, one action at a
time.  It is a tree of finite depth, so every call answers after finitely many
actions; it branches only where it looks at what its callable has stored.

| action | meaning |
| --- | --- |
| `answer` | the call is over |
| `store` | looks at the store and changes it |
| `pause` | lets the given time pass and can be interrupted meanwhile |
| `occupy` | lets the given time pass and cannot be interrupted |
| `cancel` | asks for the current run to stop |
| `note` | says something to the log |

Times are in milliseconds.  `σ` is the type of the store that all callables share.
-/

import ApparatusGraph.Event

namespace ApparatusGraph

/-- What a callable does until it answers. -/
inductive Call (σ α : Type) where
  | answer (result : Except Failure α)
  | store (change : σ → σ) (next : σ → Call σ α)
  | pause (ms : Nat) (next : Call σ α)
  | occupy (ms : Nat) (next : Call σ α)
  | cancel (next : Call σ α)
  | note (event : Event) (next : Call σ α)

namespace Call

variable {σ α β : Type}

/-- The call that answers at once. -/
def ok (a : α) : Call σ α := .answer (.ok a)

/-- The call that fails at once. -/
def fail (cause : Failure) : Call σ α := .answer (.error cause)

/-- The call with its answer replaced by its image. -/
def map (f : α → β) : Call σ α → Call σ β
  | .answer result => .answer (f <$> result)
  | .store change next => .store change fun s => (next s).map f
  | .pause ms next => .pause ms (next.map f)
  | .occupy ms next => .occupy ms (next.map f)
  | .cancel next => .cancel (next.map f)
  | .note event next => .note event (next.map f)

end Call
end ApparatusGraph
