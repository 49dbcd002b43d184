/-
# Building apparatus

A draft collects the parts of an apparatus in any order.  A part that is set again
replaces what was there; a single var is added to the contract of its side, which
begins empty.  Building checks, in this order: the name, the contracts side by side,
the callable.

| side | processor | switcher |
| --- | --- | --- |
| first | input | input |
| second | output | output of the true branch |
| third | | output of the false branch |
-/

import ApparatusGraph.Foundry.Basic
import ApparatusGraph.Text.Outline

namespace ApparatusGraph

/-- The parts of an apparatus as far as they are given; `κ` is the type of callables. -/
structure Draft (κ : Type) where
  name? : Option String := none
  description : String := ""
  contract? : Side → Option Contract := fun _ => none
  callable? : Option κ := none

/-- One part being set. -/
inductive Setting (κ : Type) where
  | name (s : String)
  | description (s : String)
  | var (side : Side) (var : Var) (tag : TypeTag)
  | contract (side : Side) (c : Contract)
  | callable (f : κ)

namespace Draft

variable {κ σ : Type}

/-- The draft with the contract of one side set. -/
def withContract (d : Draft κ) (side : Side) (c : Contract) : Draft κ :=
  { d with contract? := fun other => if other = side then some c else d.contract? other }

/-- The draft after one part has been set. -/
def apply (d : Draft κ) : Setting κ → Draft κ
  | .name s => { d with name? := some s }
  | .description s => { d with description := s }
  | .var side var tag => d.withContract side (((d.contract? side).getD ∅).insert var tag)
  | .contract side c => d.withContract side c
  | .callable f => { d with callable? := some f }

/-- The draft of a list of settings. -/
def ofSettings (settings : List (Setting κ)) : Draft κ := settings.foldl apply {}

/-- The name, unless it is missing or blank, so that trimming leaves nothing of it
(`Text.trim_eq_empty_iff`). -/
def requireName (d : Draft κ) : Except RegistryError { s : String // Text.isBlankText s = false } :=
  match d.name? with
  | some s => if h : Text.isBlankText s = false then .ok ⟨s, h⟩ else .error .missingName
  | none => .error .missingName

/-- The contract of a side, unless it is missing or has a blank var. -/
def requireContract (d : Draft κ) (name : String) (side : Side) : Except RegistryError Contract :=
  match d.contract? side with
  | some c => if c.names.any Text.isBlankText then .error (.emptyVar name) else .ok c
  | none => .error (.missingContract name side)

/-- The callable, unless it is missing. -/
def requireCallable (d : Draft κ) (name : String) : Except RegistryError κ :=
  match d.callable? with
  | some f => .ok f
  | none => .error (.missingCallable name)

/-- The processor of a draft. -/
def toProcessor (d : Draft (Record → Call σ Record)) : Except RegistryError (Processor σ) := do
  let ⟨name, named⟩ ← d.requireName
  let input ← d.requireContract name .input
  let output ← d.requireContract name .output
  let process ← d.requireCallable name
  .ok { name, description := d.description, input, output, process, named }

/-- The switcher of a draft. -/
def toSwitcher (d : Draft (Record → Call σ (Bool × Record))) :
    Except RegistryError (Switcher σ) := do
  let ⟨name, named⟩ ← d.requireName
  let input ← d.requireContract name .input
  let whenTrue ← d.requireContract name .whenTrue
  let whenFalse ← d.requireContract name .whenFalse
  let check ← d.requireCallable name
  .ok { name, description := d.description, input, whenTrue, whenFalse, check, named }

end Draft

/-- The outline of a type tag. -/
def TypeTag.outline (t : TypeTag) : Outline :=
  .record "VirtualType"
    [("name", .quoted t.name), ("optional", .bool t.optional), ("description", .quoted t.description)]
    false

/-- The outline of a contract. -/
def Contract.outline (c : Contract) : Outline := .ofNamed TypeTag.outline c

/-- The outline of a processor. -/
def Processor.outline {σ : Type} (p : Processor σ) : Outline :=
  .record "Processor"
    [("name", .quoted p.name), ("input", p.input.outline), ("output", p.output.outline)] true

/-- The outline of a switcher. -/
def Switcher.outline {σ : Type} (s : Switcher σ) : Outline :=
  .record "Switcher"
    [("name", .quoted s.name), ("input", s.input.outline),
      ("output_when_true", s.whenTrue.outline), ("output_when_false", s.whenFalse.outline)] true

/-- The outline of an apparatus. -/
def Apparatus.outline {σ : Type} : Apparatus σ → Outline
  | processor p => p.outline
  | switcher s => s.outline

namespace Draft

variable {κ : Type}

/-- The outline of a draft: its name, the given sides under their names, and whether there is a
callable. -/
def outline (d : Draft κ) (title : String) (sides : List (String × Side)) : Outline :=
  .record title
    ([("name", .option .quoted d.name?)] ++
      sides.map (fun (name, side) => (name, .option Contract.outline (d.contract? side))) ++
      [("callable", .bool d.callable?.isSome)])
    true

/-- The outline of the draft of a processor. -/
def processorOutline (d : Draft κ) : Outline :=
  d.outline "ProcessorBuilder" [("input", .input), ("output", .output)]

/-- The outline of the draft of a switcher. -/
def switcherOutline (d : Draft κ) : Outline :=
  d.outline "SwitcherBuilder"
    [("input", .input), ("output_when_true", .whenTrue), ("output_when_false", .whenFalse)]

end Draft
end ApparatusGraph
