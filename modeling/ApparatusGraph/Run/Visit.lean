/-
# Visits

What a run does at one node, apart from waiting.  An ingress writes the order to
registers and an egress reads the output from them; both are over at once.  A process
or a switch is a `Site`: its inputs are gathered, its apparatus is called, and the
answer is scattered.  `enter` is everything before the call and `Site.leave`
everything after it.

A visit writes before it looks for the place to go on at, so what it makes of the
registers is given back whether it fails or not.
-/

import ApparatusGraph.Order
import ApparatusGraph.Registers
import ApparatusGraph.Alignment.Validation

namespace ApparatusGraph

/-- What an apparatus answers: a record, and the verdict of a switcher. -/
structure Answer where
  branch : Option Bool := none
  record : Record

/-- Where a visit leads. -/
inductive Onward (a : Alignment) where
  | next (place : Fin a.size)
  | done (output : Output)

/-- A visit that is complete. -/
structure Visit (a : Alignment) where
  inputs : Record
  outputs : Record
  branch : Option Bool := none
  onward : Onward a

/-- Where a node goes on, what it writes, and under which contract. -/
structure Exit where
  target : String
  bindings : Bindings
  contract : Contract

/-- A node that calls an apparatus. -/
structure Site (σ : Type) where
  node : String
  apparatus : String
  inputs : Bindings
  contract : Contract
  call : Record → Call σ Answer
  exit : Option Bool → Exit

variable {σ : Type}

/-- The site of a process. -/
def Process.site (f : Foundry σ) (p : Process) : Except Fault (Site σ) :=
  match f.processor? p.apparatus with
  | none => .error (.unknownApparatus p.name p.apparatus)
  | some processor => .ok {
      node := p.name
      apparatus := p.apparatus
      inputs := p.inputs
      contract := processor.input
      call := fun input => (processor.process input).map fun record => { record }
      exit := fun _ => ⟨p.next, p.outputs, processor.output⟩ }

/-- The site of a switch. -/
def Switch.site (f : Foundry σ) (s : Switch) : Except Fault (Site σ) :=
  match f.switcher? s.apparatus with
  | none => .error (.unknownApparatus s.name s.apparatus)
  | some switcher => .ok {
      node := s.name
      apparatus := s.apparatus
      inputs := s.inputs
      contract := switcher.input
      call := fun input =>
        (switcher.check input).map fun (verdict, record) => { branch := some verdict, record }
      exit := fun branch =>
        let verdict := branch.getD true
        ⟨(s.branch verdict).1, (s.branch verdict).2, switcher.outputFor verdict⟩ }

/-- The place that an edge leads to. -/
def Alignment.follow (a : Alignment) (node target : String) : Except Fault (Fin a.size) :=
  match a.resolve? target with
  | some place => .ok place
  | none => .error (.danglingReference node target)

namespace Ingress

/-- The writes of an ingress: the text of the order, then its files one by one as far as there are
addresses for them. -/
def writes (i : Ingress) (o : Order) : List (Address × Param) :=
  (i.promptAddr, ⟨.text o.text, .text "order prompt"⟩) ::
    (i.fileAddrs.zip o.files).map fun (address, file) =>
      (address, ⟨.file file, .file "order attachment"⟩)

/-- What an ingress says about files that have no address. -/
def events (i : Ingress) (o : Order) : List Event :=
  if i.fileAddrs.length < o.files.length then
    [.filesIgnored o.files.length i.fileAddrs.length]
  else []

/-- The visit of an ingress, and the registers after it. -/
def visit (i : Ingress) (a : Alignment) (o : Order) (r : Registers) :
    Except Fault (Visit a) × Registers :=
  let r := r.writeAll (i.writes o)
  match a.follow ingressLabel i.next with
  | .error fault => (.error fault, r)
  | .ok place =>
    (.ok { inputs := ∅, outputs := Named.ofList (i.writes o), onward := .next place }, r)

end Ingress

/-- The visit of an egress. -/
def Egress.visit (e : Egress) (a : Alignment) (r : Registers) : Except Fault (Visit a) :=
  match e.result.entries.find? fun (_, address) => (r.read address).isNone with
  | some (_, address) => .error (.unboundRegister e.name address)
  | none => .ok {
      inputs := e.result.filterMap fun _ address => r.read address
      outputs := ∅
      onward := .done (e.result.filterMap fun _ address => (r.read address).map (·.value)) }

/-- What the beginning of a visit comes to: a complete visit, or a call to wait for. -/
inductive Entered (σ : Type) (a : Alignment) where
  | visited (v : Visit a)
  | calls (site : Site σ) (input : Record)

/-- Gathers the inputs of a site. -/
def Site.enter (site : Site σ) (a : Alignment) (r : Registers) :
    List Event × Except Fault (Entered σ a) × Registers :=
  (r.gatherEvents site.node site.inputs site.contract,
    Entered.calls site <$> r.gather site.node site.inputs site.contract, r)

/-- Begins the visit of a node; gives what is said meanwhile, and the registers by then. -/
def Node.enter (n : Node) (f : Foundry σ) (a : Alignment) (o : Order) (r : Registers) :
    List Event × Except Fault (Entered σ a) × Registers :=
  match n with
  | .ingress i =>
    let (visited, r) := i.visit a o r
    (i.events o, .visited <$> visited, r)
  | .process p =>
    match p.site f with
    | .ok site => site.enter a r
    | .error fault => ([], .error fault, r)
  | .switch s =>
    match s.site f with
    | .ok site => site.enter a r
    | .error fault => ([], .error fault, r)
  | .egress e => ([], .visited <$> e.visit a r, r)

/-- Ends the visit of a site with an answer; gives what is said meanwhile, and the registers by
then. -/
def Site.leave (site : Site σ) (a : Alignment) (input : Record) (answer : Answer)
    (r : Registers) : List Event × Except Fault (Visit a) × Registers :=
  let exit := site.exit answer.branch
  let events := Registers.scatterEvents site.node exit.bindings answer.record exit.contract
  match r.scatter site.node exit.bindings answer.record exit.contract with
  | (.error fault, r) => (events, .error fault, r)
  | (.ok (), r) =>
    match a.follow site.node exit.target with
    | .error fault => (events, .error fault, r)
    | .ok place =>
      (events, .ok {
        inputs := input
        outputs := answer.record
        branch := answer.branch
        onward := .next place }, r)

end ApparatusGraph
