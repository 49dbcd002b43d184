/-
# Waypoints

A waypoint is a node as a trace names it: its kind and, but for the ingress, its
name.  A node called `ingress` is no ingress, so the two never meet.
-/

import ApparatusGraph.Alignment.Basic
import ApparatusGraph.Json.Reader

namespace ApparatusGraph

open Json (Source Result Origin)

/-- A node as a trace names it. -/
inductive Waypoint where
  | ingress
  | process (name : String)
  | switch (name : String)
  | egress (name : String)
  deriving DecidableEq

/-- The waypoint of a node. -/
def Node.waypoint : Node → Waypoint
  | .ingress _ => .ingress
  | .process p => .process p.name
  | .switch s => .switch s.name
  | .egress e => .egress e.name

namespace Waypoint

/-- The name of a waypoint. -/
def name? : Waypoint → Option String
  | ingress => none
  | process name => some name
  | switch name => some name
  | egress name => some name

/-- A waypoint in one word. -/
def display : Waypoint → String
  | ingress => "ingress"
  | process name => "process:" ++ name
  | switch name => "switch:" ++ name
  | egress name => "egress:" ++ name

/-- The kinds of waypoints. -/
inductive Kind where
  | ingress
  | process
  | switch
  | egress

/-- The JSON form: the kind, and the name beside it where there is one. -/
def toJson : Waypoint → Json
  | ingress => .object [("kind", .text "ingress")]
  | process name => .object [("kind", .text "process"), ("name", .text name)]
  | switch name => .object [("kind", .text "switch"), ("name", .text name)]
  | egress name => .object [("kind", .text "egress"), ("name", .text name)]

/-- Reads the name of a waypoint of a kind; an ingress may have null for it. -/
def readName (kind : Kind) (source : Source) : Result Waypoint :=
  match kind with
  | .ingress => (fun _ => ingress) <$> Json.readNull "unit variant NodeRef::Ingress" source
  | .process => process <$> Json.readText source
  | .switch => switch <$> Json.readText source
  | .egress => egress <$> Json.readText source

/-- The two fields of a waypoint. -/
def tagged : Json.Tagged Kind Waypoint where
  title := "NodeRef"
  tag := "kind"
  content := "name"
  known := [("ingress", .ingress), ("process", .process), ("switch", .switch), ("egress", .egress)]
  read _ := readName
  bare
    | .ingress => some ingress
    | _ => none

/-- Reads a waypoint. -/
def read (source : Source) : Result Waypoint := tagged.readFrom source

end Waypoint
end ApparatusGraph
