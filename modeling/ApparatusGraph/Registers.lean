/-
# Registers

The register file of one run: what is held at each address, and how many writes were
made.  A write replaces what was there.

`gather` reads the registers that a node feeds to its apparatus and `scatter` writes
what the apparatus gave back.  Both fail on the first entry, in the order of vars, that
cannot be served; an entry whose var may be absent is skipped instead.  `scatter` collects
its writes before it makes the first of them.
-/

import ApparatusGraph.Event
import ApparatusGraph.Value.Json

namespace ApparatusGraph

/-- What each register holds, and the number of writes so far. -/
structure Registers where
  slots : Named Param := ∅
  /-- kept in a word of 64 bits, into which it fits (`Operator.fits_words`) -/
  writes : Nat := 0

namespace Registers

/-- What a register holds; none if nothing was written to it. -/
def read (r : Registers) (address : Address) : Option Param := r.slots.get? address

/-- The registers after a write. -/
def write (r : Registers) (address : Address) (p : Param) : Registers :=
  ⟨r.slots.insert address p, r.writes + 1⟩

/-- Writes to a register and gives back what the write replaced. -/
def exchange (r : Registers) (address : Address) (p : Param) : Option Param × Registers :=
  (r.read address, r.write address p)

/-- The registers after writes in a row. -/
def writeAll (r : Registers) (ws : List (Address × Param)) : Registers :=
  ws.foldl (fun r (address, p) => r.write address p) r

/-- True of the registers that were written. -/
def isBound (r : Registers) (address : Address) : Bool := r.slots.contains address

/-- The number of bound registers. -/
def size (r : Registers) : Nat := r.slots.size

/-- True if no register is bound. -/
def isEmpty (r : Registers) : Bool := r.slots.isEmpty

/-- The bound registers with what they hold, in the order of their addresses. -/
def bound (r : Registers) : List (Address × Param) := r.slots.entries

/-- The JSON form: the slots alone. -/
def toJson (r : Registers) : Json := .object [("slots", Record.toJson r.slots)]

/-- True of the input bindings that cannot be served: the register is unbound and the var may not
be absent. -/
def lacks (r : Registers) (c : Contract) (entry : Var × Address) : Bool :=
  (r.read entry.2).isNone && !c.allowsAbsent entry.1

/-- Reads the registers that a node feeds to its apparatus. -/
def gather (r : Registers) (node : String) (b : Bindings) (c : Contract) : Except Fault Record :=
  match b.entries.find? (r.lacks c) with
  | some (_, address) => .error (.unboundRegister node address)
  | none => .ok (b.filterMap fun _ address => r.read address)

/-- What `gather` says about the inputs it skips, up to the one it fails on. -/
def gatherEvents (r : Registers) (node : String) (b : Bindings) (c : Contract) : List Event :=
  (b.entries.takeWhile (!r.lacks c ·)).filterMap fun (var, address) =>
    if (r.read address).isNone then some (.inputSkipped node var address) else none

end Registers

/-- True of the output bindings that cannot be served: the var is not in the record and may not be
absent. -/
def Record.lacks (output : Record) (c : Contract) (entry : Var × Address) : Bool :=
  (output.get? entry.1).isNone && !c.allowsAbsent entry.1

namespace Registers

/-- Collects the writes that entries of bindings make of a record, up to an entry that cannot be
served. -/
def collect (node : String) (output : Record) (c : Contract) :
    List (Var × Address) → Except Fault (List (Address × Param))
  | [] => .ok []
  | (var, address) :: rest =>
    match output.get? var with
    | some p => do
      let writes ← collect node output c rest
      .ok ((address, p) :: writes)
    | none =>
      if c.allowsAbsent var then collect node output c rest
      else .error (.missingOutput node var)

/-- Writes what an apparatus gave back to the registers that a node maps it to; gives the registers
by then, also when it fails. -/
def scatter (r : Registers) (node : String) (b : Bindings) (output : Record) (c : Contract) :
    Except Fault Unit × Registers :=
  match collect node output c b.entries with
  | .error fault => (.error fault, r)
  | .ok writes => (.ok (), r.writeAll writes)

/-- What `scatter` says about the outputs it skips, up to the one it fails on. -/
def scatterEvents (node : String) (b : Bindings) (output : Record) (c : Contract) : List Event :=
  (b.entries.takeWhile (!output.lacks c ·)).filterMap fun (var, _) =>
    if (output.get? var).isNone then some (.outputSkipped node var) else none

end Registers
end ApparatusGraph
