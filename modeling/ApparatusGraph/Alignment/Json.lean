/-
# JSON form of alignments

An alignment is an object with its nodes under `operations`.  A node is an object
whose `kind` names the kind of node and whose other members are the fields of that
kind; a field that is no field of that kind is skipped, whatever it holds.

| kind | fields |
| --- | --- |
| `ingress` | `next`, `promptAddr`, `fileAddrs`? |
| `process` | `name`, `apparatus`, `inputs`?, `outputs`?, `next` |
| `switch` | `name`, `apparatus`, `inputs`?, `outputsWhenTrue`?, `outputsWhenFalse`?, `nextWhenTrue`, `nextWhenFalse` |
| `egress` | `name`, `result`? |

The fields with a question mark may be left out and are then empty.
-/

import ApparatusGraph.Alignment.Basic
import ApparatusGraph.Value.Json

namespace ApparatusGraph

open Json (Source Result Shape Origin)

/-- The JSON form of bindings. -/
def Bindings.toJson (b : Bindings) : Json := .ofNamed .text b

/-- Reads bindings. -/
def Bindings.read (source : Source) : Result Bindings := Json.readMap Json.readText source

namespace Ingress

/-- The members of the JSON form of an ingress. -/
def members (i : Ingress) : List (String × Json) :=
  [("next", .text i.next), ("promptAddr", .text i.promptAddr),
    ("fileAddrs", .list (i.fileAddrs.map .text))]

/-- The fields of an ingress. -/
def shape : Shape Ingress :=
  pure mk <*> .field "next" Json.readText <*> .field "promptAddr" Json.readText <*>
    .optional "fileAddrs" (Json.readList Json.readText) []

/-- Reads an ingress. -/
def read (origin : Origin) (source : Source) : Result Ingress := shape.read "Ingress" origin source

end Ingress

namespace Process

/-- The members of the JSON form of a process. -/
def members (p : Process) : List (String × Json) :=
  [("name", .text p.name), ("apparatus", .text p.apparatus), ("inputs", p.inputs.toJson),
    ("outputs", p.outputs.toJson), ("next", .text p.next)]

/-- The fields of a process. -/
def shape : Shape Process :=
  pure mk <*> .field "name" Json.readText <*> .field "apparatus" Json.readText <*>
    .optional "inputs" Bindings.read ∅ <*> .optional "outputs" Bindings.read ∅ <*>
    .field "next" Json.readText

/-- Reads a process. -/
def read (origin : Origin) (source : Source) : Result Process := shape.read "Process" origin source

end Process

namespace Switch

/-- The members of the JSON form of a switch. -/
def members (s : Switch) : List (String × Json) :=
  [("name", .text s.name), ("apparatus", .text s.apparatus), ("inputs", s.inputs.toJson),
    ("outputsWhenTrue", s.outputsWhenTrue.toJson), ("outputsWhenFalse", s.outputsWhenFalse.toJson),
    ("nextWhenTrue", .text s.nextWhenTrue), ("nextWhenFalse", .text s.nextWhenFalse)]

/-- The fields of a switch. -/
def shape : Shape Switch :=
  pure mk <*> .field "name" Json.readText <*> .field "apparatus" Json.readText <*>
    .optional "inputs" Bindings.read ∅ <*> .optional "outputsWhenTrue" Bindings.read ∅ <*>
    .optional "outputsWhenFalse" Bindings.read ∅ <*> .field "nextWhenTrue" Json.readText <*>
    .field "nextWhenFalse" Json.readText

/-- Reads a switch. -/
def read (origin : Origin) (source : Source) : Result Switch := shape.read "Switch" origin source

end Switch

namespace Egress

/-- The members of the JSON form of an egress. -/
def members (e : Egress) : List (String × Json) :=
  [("name", .text e.name), ("result", .ofNamed .text e.result)]

/-- The fields of an egress. -/
def shape : Shape Egress :=
  pure mk <*> .field "name" Json.readText <*> .optional "result" (Json.readMap Json.readText) ∅

/-- Reads an egress. -/
def read (origin : Origin) (source : Source) : Result Egress := shape.read "Egress" origin source

end Egress

namespace Node

/-- The kinds of nodes. -/
inductive Kind where
  | ingress
  | process
  | switch
  | egress

/-- The kinds by the names that their tags have. -/
def kinds : List (String × Kind) :=
  [("ingress", .ingress), ("process", .process), ("switch", .switch), ("egress", .egress)]

/-- The kind of a node, as its tag names it. -/
def tag : Node → String
  | ingress _ => "ingress"
  | process _ => "process"
  | switch _ => "switch"
  | egress _ => "egress"

/-- The members of the JSON form of a node besides its kind. -/
def fields : Node → List (String × Json)
  | ingress i => i.members
  | process p => p.members
  | switch s => s.members
  | egress e => e.members

/-- The members of the JSON form of a node, its kind first. -/
def members (n : Node) : List (String × Json) := ("kind", .text n.tag) :: n.fields

/-- The JSON form of a node. -/
def toJson (n : Node) : Json := .object n.members

/-- Reads the fields of a node of a kind. -/
def readFields (origin : Origin) (kind : Kind) (source : Source) : Result Node :=
  match kind with
  | .ingress => ingress <$> Ingress.read origin source
  | .process => process <$> Process.read origin source
  | .switch => switch <$> Switch.read origin source
  | .egress => egress <$> Egress.read origin source

/-- The kind among the members of an object, and the members besides it, all of which must be
fit to be kept. -/
def splitKind (kind : Option Kind) : List (Option String × Source) →
    Result (Option Kind × List (Option String × Source))
  | [] => .ok (kind, [])
  | (name, source) :: rest => do
    let name ← Json.readable name
    if name = "kind" then
      match kind with
      | some _ => Json.refuse (.duplicateField "kind")
      | none =>
        let k ← Json.readVariantName kinds source
        splitKind (some k) rest
    else if source.keepable then
      let (k, others) ← splitKind kind rest
      .ok (k, (some name, source) :: others)
    else .error .notReadable

/-- Reads a node: an object with its kind anywhere, or a list with its kind first. -/
def read : Source → Result Node
  | .object members => do
    match ← splitKind none members with
    | (some kind, others) => readFields .kept kind (.object others)
    | (none, _) => Json.refuse (.missingField "kind")
  | .list [] => Json.refuse (.missingField "kind")
  | .list (tag :: items) => do
    let kind ← Json.readVariantName kinds tag
    if items.all Source.keepable then readFields .kept kind (.list items) else .error .notReadable
  | source => Json.mismatch "internally tagged enum Operation" source

end Node

namespace Alignment

/-- The JSON form of an alignment. -/
def toJson (a : Alignment) : Json := .object [("operations", .list (a.operations.map Node.toJson))]

/-- The JSON text of an alignment, each part on its own line. -/
def toText (a : Alignment) : String := a.toJson.pretty

/-- The fields of an alignment. -/
def shape : Shape Alignment := pure mk <*> .field "operations" (Json.readList Node.read)

/-- Reads an alignment. -/
def read (source : Source) : Result Alignment := shape.read "Alignment" .direct source

/-- The alignment of a JSON text. -/
def ofText (s : String) : Result Alignment := Json.readString read s

end Alignment
end ApparatusGraph
