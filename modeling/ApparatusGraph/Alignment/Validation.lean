/-
# Validation

An alignment is checked before it is run.  The checks come in groups, and the first
violated group decides the fault:

1. exactly one ingress
2. at least one egress
3. names, in order of declaration: none blank, none used twice
4. at most five file addresses at the ingress
5. every edge, in order of declaration, names a node
6. every process names a processor and every switch a switcher, in order of declaration

The first five look at the alignment alone.
-/

import ApparatusGraph.Alignment.Basic
import ApparatusGraph.Foundry.Basic

namespace ApparatusGraph
namespace Alignment

/-- The fault of the number of ingress nodes. -/
def ingressFault? (a : Alignment) : Option StructuralFault :=
  match (a.operations.filterMap Node.ingress?).length with
  | 0 => some .missingIngress
  | 1 => none
  | count => some (.duplicateIngress count)

/-- The fault of the number of egress nodes. -/
def egressFault? (a : Alignment) : Option StructuralFault :=
  if a.egresses.isEmpty then some .missingEgress else none

/-- The first name that is blank, so that trimming leaves nothing of it (`Text.trim_eq_empty_iff`),
or that is among the earlier ones; `seen` are the names before and `position` is that of the first
node. -/
def nameFaultAfter (seen : List String) (position : Nat) : List Node → Option StructuralFault
  | [] => none
  | n :: rest =>
    match n.name? with
    | none => nameFaultAfter seen (position + 1) rest
    | some name =>
      if Text.isBlankText name then some (.emptyName position)
      else if name ∈ seen then some (.duplicateName name)
      else nameFaultAfter (name :: seen) (position + 1) rest

/-- The fault of the names. -/
def nameFault? (a : Alignment) : Option StructuralFault := nameFaultAfter [] 0 a.operations

/-- The fault of the number of file addresses. -/
def fileFault? (a : Alignment) : Option StructuralFault :=
  match a.ingress? with
  | some (_, i) =>
    if maxFileAddresses < i.fileAddrs.length then
      some (.tooManyFileAddresses i.fileAddrs.length maxFileAddresses)
    else none
  | none => none

/-- The names of the nodes in order of declaration. -/
def nodeNames (a : Alignment) : List String := a.operations.filterMap Node.name?

/-- The fault of the edges. -/
def edgeFault? (a : Alignment) : Option StructuralFault :=
  a.operations.findSome? fun n =>
    (n.successors.find? (· ∉ a.nodeNames)).map (.unresolvedReference n.label)

/-- The first violated group of those that look at the alignment alone. -/
def structureFault? (a : Alignment) : Option StructuralFault :=
  a.ingressFault? <|> a.egressFault? <|> a.nameFault? <|> a.fileFault? <|> a.edgeFault?

variable {σ : Type}

/-- The fault of the apparatus that a node calls. -/
def callFault? (f : Foundry σ) (node apparatus : String) (expected : ApparatusKind) :
    Option Fault :=
  match f.get? apparatus with
  | none => some (.unknownApparatus node apparatus)
  | some a =>
    if a.kind = expected then none else some (.structural (.kindMismatch node apparatus expected))

/-- The fault of a node that calls what the foundry does not have. -/
def nodeFault? (f : Foundry σ) : Node → Option Fault
  | .process p => callFault? f p.name p.apparatus .processor
  | .switch s => callFault? f s.name s.apparatus .switcher
  | _ => none

/-- The first violated group. -/
def fault? (a : Alignment) (f : Foundry σ) : Option Fault :=
  match a.structureFault? with
  | some cause => some (.structural cause)
  | none => a.operations.findSome? (nodeFault? f)

/-- Accepts an alignment or gives its fault. -/
def validate (a : Alignment) (f : Foundry σ) : Except Fault Unit :=
  match a.fault? f with
  | some fault => .error fault
  | none => .ok ()

end Alignment
end ApparatusGraph
