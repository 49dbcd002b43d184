/-
# Engines

A blueprint drafts an alignment for an order.  An engine drafts, checks what was
drafted whatever its blueprint is, and runs it.  A failed draft and a rejected one are
faults before any run begins.

| blueprint | drafts |
| --- | --- |
| `Blueprint.fixed` | always the same alignment |
| `Blueprint.ofText` | always the alignment of a JSON text |
| `Blueprint.failing` | never |
| `Blueprint.byText` | the alignment listed for the text of the order |
| `Blueprint.firstProcessor` | a run through the first apparatus of the foundry |
-/

import ApparatusGraph.Alignment.Json
import ApparatusGraph.Run.Operator

namespace ApparatusGraph

/-- What drafts alignments, and how it is shown. -/
structure Blueprint (σ : Type) where
  draft : Foundry σ → Order → Except Failure Alignment
  outline : Outline

/-- The outline of bindings and of the registers of an output. -/
def Bindings.outline (b : Named Address) : Outline :=
  .ofNamed (fun address => .call "Address" [.quoted address]) b

/-- The outline of a node. -/
def Node.outline : Node → Outline
  | .ingress i =>
    .call "Ingress" [.record "Ingress"
      [("next", .quoted i.next), ("prompt_addr", .call "Address" [.quoted i.promptAddr]),
        ("file_addrs", .list (i.fileAddrs.map fun address => .call "Address" [.quoted address]))]
      false]
  | .process p =>
    .call "Process" [.record "Process"
      [("name", .quoted p.name), ("apparatus", .quoted p.apparatus),
        ("inputs", Bindings.outline p.inputs), ("outputs", Bindings.outline p.outputs),
        ("next", .quoted p.next)] false]
  | .switch s =>
    .call "Switch" [.record "Switch"
      [("name", .quoted s.name), ("apparatus", .quoted s.apparatus),
        ("inputs", Bindings.outline s.inputs),
        ("outputs_when_true", Bindings.outline s.outputsWhenTrue),
        ("outputs_when_false", Bindings.outline s.outputsWhenFalse),
        ("next_when_true", .quoted s.nextWhenTrue),
        ("next_when_false", .quoted s.nextWhenFalse)] false]
  | .egress e =>
    .call "Egress" [.record "Egress"
      [("name", .quoted e.name), ("result", Bindings.outline e.result)] false]

/-- The outline of an alignment. -/
def Alignment.outline (a : Alignment) : Outline :=
  .record "Alignment" [("operations", .list (a.operations.map Node.outline))] false

namespace Blueprint

variable {σ : Type}

/-- Always drafts the same alignment. -/
def fixed (a : Alignment) : Blueprint σ where
  draft _ _ := .ok a
  outline := .record "StaticBlueprint" [("alignment", a.outline)] false

/-- Always drafts the alignment of a JSON text. -/
def ofText (s : String) : Json.Result (Blueprint σ) := fixed <$> Alignment.ofText s

/-- Always fails. -/
def failing (cause : Failure) : Blueprint σ where
  draft _ _ := .error cause
  outline := .word "Planner"

/-- Drafts the alignment listed for the text of the order. -/
def byText (plans : Named Alignment) : Blueprint σ where
  draft _ order :=
    match plans.get? order.text with
    | some a => .ok a
    | none => .error ⟨s!"no plan for '{order.text}'", []⟩
  outline := .word "Planner"

/-- The alignment that sends the prompt through one apparatus. -/
def through (apparatus : String) : Alignment where
  operations := [
    .ingress { next := "only", promptAddr := "prompt" },
    .process {
      name := "only"
      apparatus
      inputs := Named.ofList [("text", "prompt")]
      outputs := Named.ofList [("text", "out")]
      next := "done" },
    .egress { name := "done", result := Named.ofList [("result", "out")] }]

/-- Drafts a run through the first apparatus of the foundry. -/
def firstProcessor : Blueprint σ where
  draft foundry _ :=
    match foundry.names.head? with
    | some name => .ok (through name)
    | none => .error ⟨"empty foundry", []⟩
  outline := .word "Planner"

end Blueprint

/-- What drafts alignments for orders and runs them. -/
structure Engine (σ μ : Type) where
  foundry : Foundry σ
  blueprint : Blueprint σ
  limits : Limits := {}
  medium : Option (Medium μ) := none

namespace Engine

variable {σ μ : Type}

/-- Drafts an alignment and checks it. -/
def draft? (g : Engine σ μ) (order : Order) : Except Fault Alignment :=
  match g.blueprint.draft g.foundry order with
  | .error cause => .error (.blueprint cause)
  | .ok a =>
    match a.validate g.foundry with
    | .error fault => .error fault
    | .ok () => .ok a

/-- Drafts an alignment, checks it, and says so when it is good. -/
def draft (g : Engine σ μ) (order : Order) (s : Session σ μ) :
    Except Fault Alignment × Session σ μ :=
  match g.draft? order with
  | .error fault => (.error fault, s)
  | .ok a => (.ok a, s.say (.drafted a.size a.referencedApparatus))

/-- The operator that runs what the engine drafts. -/
def operator (g : Engine σ μ) : Operator σ μ := ⟨g.foundry, g.limits, g.medium⟩

/-- Drafts an alignment for an order and runs it; a fault only when drafting fails. -/
def report (g : Engine σ μ) (order : Order) (runId : RunId) (s : Session σ μ) :
    Except Fault Report × Session σ μ :=
  match g.draft order s with
  | (.error fault, s) => (.error fault, s.say (.draftingFailed fault))
  | (.ok a, s) =>
    let (report, s) := g.operator.run a order runId s
    (.ok report, s)

/-- Drafts an alignment for an order, runs it under the token of the session and keeps only how
that ended. -/
def fulfilWith (g : Engine σ μ) (order : Order) (runId : RunId) (s : Session σ μ) :
    Except Fault Output × Session σ μ :=
  match g.report order runId s with
  | (.error fault, s) => (.error fault, s)
  | (.ok report, s) => (report.outcome, s)

/-- Drafts an alignment for an order, runs it to its end whoever asks for it to stop, and keeps only
how that ended. -/
def fulfil (g : Engine σ μ) (order : Order) (runId : RunId) (s : Session σ μ) :
    Except Fault Output × Session σ μ :=
  let (outcome, after) := g.fulfilWith order runId s.withPrivateToken
  (outcome, after.withTokenOf s)

/-- The outline of an engine. -/
def outline (g : Engine σ μ) : Outline :=
  .record "Engine"
    [("foundry", .nat g.foundry.size), ("blueprint", g.blueprint.outline),
      ("config", g.limits.outline), ("medium", .bool g.medium.isSome)] false

end Engine
end ApparatusGraph
