/-
# Events

What a run says about itself while it goes on.  An event has a level, a heading and
named fields, each of them a text; a heading is a message, or the name of a span that
holds what follows.
-/

import ApparatusGraph.Fault
import ApparatusGraph.Trace.Waypoint

namespace ApparatusGraph

/-- How much an event matters. -/
inductive Level where
  | debug
  | info
  | warn

/-- The name of a level. -/
def Level.display : Level → String
  | debug => "DEBUG"
  | info => "INFO"
  | warn => "WARN"

/-- What stands above the fields of an event. -/
inductive Heading where
  | message (s : String)
  | span (name : String)

/-- What a run says about itself. -/
inductive Event where
  | runOpened (nodes : Nat)
  | runSucceeded (steps fields : Nat)
  | runFaulted (fault : Fault) (steps : Nat)
  | transition (step : Nat) (node : Waypoint) (branch : Option Bool)
  | filesIgnored (attached declared : Nat)
  | inputSkipped (node : String) (var : Var) (address : Address)
  | outputSkipped (node : String) (var : Var)
  | stepCompleted (index : Nat) (node : Waypoint) (branch : Option Bool) (inputs outputs : Nat)
      (micros : Int)
  | recordFailed (index : Nat) (node : Waypoint) (cause : Failure)
  | drafted (operations : Nat) (apparatus : List String)
  | draftingFailed (fault : Fault)
  | modelCalled (promptLength : Nat) (client : String)

namespace Event

/-- The text of a verdict that may be absent. -/
def branchText : Option Bool → String
  | none => "None"
  | some true => "Some(true)"
  | some false => "Some(false)"

/-- The level of an event. -/
def level : Event → Level
  | runOpened _ => .info
  | runSucceeded .. => .info
  | runFaulted .. => .warn
  | transition .. => .debug
  | filesIgnored .. => .warn
  | inputSkipped .. => .debug
  | outputSkipped .. => .debug
  | stepCompleted .. => .info
  | recordFailed .. => .warn
  | drafted .. => .debug
  | draftingFailed _ => .warn
  | modelCalled .. => .debug

/-- The heading of an event. -/
def heading : Event → Heading
  | runOpened _ => .span "operate"
  | runSucceeded .. => .message "Run succeeded"
  | runFaulted .. => .message "Run faulted"
  | transition .. => .message "Transition"
  | filesIgnored .. => .message "Order carries more files than the ingress binds, extras ignored"
  | inputSkipped .. => .message "Optional input unbound, skipped"
  | outputSkipped .. => .message "Optional output absent, write skipped"
  | stepCompleted .. => .message "Step completed"
  | recordFailed .. => .message "Medium failed to record step"
  | drafted .. => .message "Alignment drafted"
  | draftingFailed _ => .message "Drafting failed"
  | modelCalled .. => .message "Calling chat model"

/-- The fields of an event. -/
def fields : Event → List (String × String)
  | runOpened nodes => [("nodes", toString nodes)]
  | runSucceeded steps fields => [("steps", toString steps), ("fields", toString fields)]
  | runFaulted fault steps =>
    [("kind", fault.kind.display), ("node", fault.node?.getD "-"), ("steps", toString steps),
      ("error", fault.message)]
  | transition step node branch =>
    [("step", toString step), ("node", node.display), ("branch", branchText branch)]
  | filesIgnored attached declared =>
    [("attached", toString attached), ("declared", toString declared)]
  | inputSkipped node var address => [("node", node), ("var", var), ("address", address)]
  | outputSkipped node var => [("node", node), ("var", var)]
  | stepCompleted index node branch inputs outputs micros =>
    [("index", toString index), ("node", node.display), ("branch", branchText branch),
      ("inputs", toString inputs), ("outputs", toString outputs), ("duration_us", toString micros)]
  | recordFailed index node cause =>
    [("step", toString index), ("node", node.display), ("error", cause.message)]
  | drafted operations apparatus =>
    [("operations", toString operations),
      ("apparatus", "[" ++ ", ".intercalate (apparatus.map Text.quoted) ++ "]")]
  | draftingFailed fault => [("kind", fault.kind.display), ("error", fault.message)]
  | modelCalled promptLength client =>
    [("prompt_len", toString promptLength), ("client", client)]

end Event
end ApparatusGraph
