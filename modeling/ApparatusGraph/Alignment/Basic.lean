/-
# Alignments

An alignment is the program that a run executes: a list of nodes joined by name.

| node | does | goes on at |
| --- | --- | --- |
| ingress | binds the order to registers | `next` |
| process | calls a processor | `next` |
| switch | calls a switcher, which decides | `nextWhenTrue` or `nextWhenFalse` |
| egress | reads the output from registers | nowhere |

The ingress has no name and can be no one's successor.  The order of the list
carries no meaning.
-/

import ApparatusGraph.Value.Basic

namespace ApparatusGraph

/-- Which register belongs to which var of a node. -/
abbrev Bindings := Named Address

/-- The entry of an alignment. -/
structure Ingress where
  next : String
  /-- receives the text of the order -/
  promptAddr : Address
  /-- receive the files of the order, one each -/
  fileAddrs : List Address := []
  deriving DecidableEq

/-- A node that transforms registers. -/
structure Process where
  name : String
  apparatus : String
  inputs : Bindings := ∅
  outputs : Bindings := ∅
  next : String
  deriving DecidableEq

/-- A node that decides where to go on. -/
structure Switch where
  name : String
  apparatus : String
  inputs : Bindings := ∅
  outputsWhenTrue : Bindings := ∅
  outputsWhenFalse : Bindings := ∅
  nextWhenTrue : String
  nextWhenFalse : String
  deriving DecidableEq

/-- Where a switch goes on, and what it writes, for a verdict. -/
def Switch.branch (s : Switch) (verdict : Bool) : String × Bindings :=
  if verdict then (s.nextWhenTrue, s.outputsWhenTrue) else (s.nextWhenFalse, s.outputsWhenFalse)

/-- An exit of an alignment. -/
structure Egress where
  name : String
  /-- the register of each field of the output -/
  result : Named Address := ∅
  deriving DecidableEq

/-- A node of an alignment. -/
inductive Node where
  | ingress (i : Ingress)
  | process (p : Process)
  | switch (s : Switch)
  | egress (e : Egress)
  deriving DecidableEq

/-- The name by which logs and faults call the ingress. -/
def ingressLabel : String := "ingress"

/-- The number of files that an ingress can bind. -/
def maxFileAddresses : Nat := 5

namespace Node

/-- The name of a node; the ingress has none. -/
def name? : Node → Option String
  | ingress _ => none
  | process p => some p.name
  | switch s => some s.name
  | egress e => some e.name

/-- The name of a node in logs and faults. -/
def label (n : Node) : String := n.name?.getD ingressLabel

/-- The names of the nodes a node can go on at. -/
def successors : Node → List String
  | ingress i => [i.next]
  | process p => [p.next]
  | switch s => [s.nextWhenTrue, s.nextWhenFalse]
  | egress _ => []

/-- The apparatus that a node calls. -/
def apparatus? : Node → Option String
  | process p => some p.apparatus
  | switch s => some s.apparatus
  | _ => none

/-- The ingress that a node is. -/
def ingress? : Node → Option Ingress
  | ingress i => some i
  | _ => none

/-- The egress that a node is. -/
def egress? : Node → Option Egress
  | egress e => some e
  | _ => none

end Node

/-- The program of a run: its nodes in the order of declaration. -/
structure Alignment where
  operations : List Node := []
  deriving DecidableEq

namespace Alignment

/-- The number of nodes. -/
def size (a : Alignment) : Nat := a.operations.length

/-- The alignment with one more node at the end. -/
def push (a : Alignment) (n : Node) : Alignment := ⟨a.operations ++ [n]⟩

/-- The first ingress of a list of nodes with its position, the first node being at `position`. -/
def firstIngress (position : Nat) : List Node → Option (Nat × Ingress)
  | [] => none
  | .ingress i :: _ => some (position, i)
  | _ :: rest => firstIngress (position + 1) rest

/-- The first ingress and its position. -/
def ingress? (a : Alignment) : Option (Nat × Ingress) := firstIngress 0 a.operations

/-- Every egress in order. -/
def egresses (a : Alignment) : List Egress := a.operations.filterMap Node.egress?

/-- The first node of a name. -/
def find? (a : Alignment) (name : String) : Option Node :=
  a.operations.find? fun n => n.name? = some name

/-- The last position among `operations` that holds a node of a name, counted from `position`. -/
def lastNamed (name : String) (position : Nat) : List Node → Option Nat
  | [] => none
  | n :: rest =>
    match lastNamed name (position + 1) rest with
    | some p => some p
    | none => if n.name? = some name then some position else none

/-- The last position that holds a node of a name: where an edge of that name leads. -/
def position? (a : Alignment) (name : String) : Option Nat := lastNamed name 0 a.operations

/-- The names of the apparatus that nodes call, each once, in order of first use. -/
def referencedApparatus (a : Alignment) : List String :=
  (a.operations.filterMap Node.apparatus?).foldl
    (fun names name => if name ∈ names then names else names ++ [name]) []

/-- The position of a name lies within the list of nodes. -/
theorem lastNamed_lt {name : String} : (operations : List Node) → (position : Nat) →
    ∀ {p : Nat}, lastNamed name position operations = some p → p < position + operations.length
  | [], _, _, h => by simp [lastNamed] at h
  | n :: rest, position, p, h => by
    unfold lastNamed at h
    split at h
    · rename_i q hq
      have := lastNamed_lt rest (position + 1) hq
      grind
    · grind

/-- The position of a name is one of the alignment. -/
theorem position?_lt {a : Alignment} {name : String} {p : Nat} (h : a.position? name = some p) :
    p < a.size := by
  have := lastNamed_lt _ _ h
  unfold size
  omega

/-- The position of the first ingress lies within the list of nodes. -/
theorem firstIngress_lt : (operations : List Node) → (position : Nat) → ∀ {p : Nat} {i : Ingress},
    firstIngress position operations = some (p, i) → p < position + operations.length
  | [], _, _, _, h => by simp [firstIngress] at h
  | .ingress _ :: rest, position, p, _, h => by
    simp only [firstIngress, Option.some.injEq, Prod.mk.injEq] at h
    grind
  | .process _ :: rest, position, p, _, h => by
    have := firstIngress_lt rest (position + 1) h
    grind
  | .switch _ :: rest, position, p, _, h => by
    have := firstIngress_lt rest (position + 1) h
    grind
  | .egress _ :: rest, position, p, _, h => by
    have := firstIngress_lt rest (position + 1) h
    grind

/-- The position of the ingress is one of the alignment. -/
theorem ingress?_lt {a : Alignment} {p : Nat} {i : Ingress} (h : a.ingress? = some (p, i)) :
    p < a.size := by
  have := firstIngress_lt _ _ h
  unfold size
  omega

/-- Where an edge of a name leads, as a place in the alignment. -/
def resolve? (a : Alignment) (name : String) : Option (Fin a.size) :=
  match h : a.position? name with
  | some p => some ⟨p, position?_lt h⟩
  | none => none

/-- The place of the first ingress. -/
def entry? (a : Alignment) : Option (Fin a.size) :=
  match h : a.ingress? with
  | some (p, _) => some ⟨p, ingress?_lt h⟩
  | none => none

/-- The node at a place. -/
def node (a : Alignment) (place : Fin a.size) : Node := a.operations.get place

end Alignment
end ApparatusGraph
