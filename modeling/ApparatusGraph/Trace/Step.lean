/-
# Steps

A step is one completed visit of a node: what went in, what came out, when, and the
verdict if the node is a switch.
-/

import ApparatusGraph.Trace.Instant
import ApparatusGraph.Trace.RunId
import ApparatusGraph.Trace.Waypoint
import ApparatusGraph.Value.Json

namespace ApparatusGraph

open Json (Source Result Shape)

/-- One completed visit. -/
structure Step where
  runId : RunId
  /-- the place in the run, from 1 -/
  index : UInt64
  node : Waypoint
  startedAt : Instant
  endedAt : Instant
  /-- what the apparatus was given, or what an egress read -/
  inputs : Record
  /-- what the apparatus gave back, or what the ingress bound -/
  outputs : Record
  /-- the verdict of a switch -/
  branch : Option Bool := none

namespace Step

/-- The JSON form of a step; `branch` is left out when there is no verdict. -/
def toJson (s : Step) : Json :=
  .object ([("runId", .text s.runId.write), ("index", .uint64 s.index), ("node", s.node.toJson),
    ("startedAt", .text s.startedAt.write), ("endedAt", .text s.endedAt.write),
    ("inputs", s.inputs.toJson), ("outputs", s.outputs.toJson)] ++
    match s.branch with
    | some b => [("branch", .bool b)]
    | none => [])

/-- Reads a run identifier. -/
def readRunId : Source → Result RunId
  | .text s =>
    match RunId.read s with
    | .ok id => .ok id
    | .error flaw => Json.refuse (.refused ("UUID parsing failed: " ++ flaw.message))
  | source => Json.mismatch "a formatted UUID string" source

/-- Reads an instant. -/
def readInstant : Source → Result Instant
  | .text s =>
    match Instant.read s with
    | .ok t => .ok t
    | .error flaw => Json.refuse (.refused flaw.message)
  | source => Json.mismatch "an RFC 3339 formatted date and time string" source

/-- The fields of a step. -/
def shape : Shape Step :=
  pure mk <*> .field "runId" readRunId <*> .field "index" Json.readUInt64 <*>
    .field "node" Waypoint.read <*> .field "startedAt" readInstant <*>
    .field "endedAt" readInstant <*> .field "inputs" Record.read <*>
    .field "outputs" Record.read <*> .optional "branch" (Json.readOption Json.readBool) none

/-- Reads a step. -/
def read (source : Source) : Result Step := shape.read "Step" .direct source

end Step
end ApparatusGraph
