/-
# Faults

Every way in which a run can end without an output is a `Fault`.  Three families of
causes stand on their own and become faults when they stop a run: the structural
faults of an alignment, the registry errors of apparatus and foundries, and the
errors of limits.

| function | gives |
| --- | --- |
| `Fault.message` | the wording |
| `Fault.kind` | the family a fault belongs to |
| `Fault.node?` | the node it was raised at |
| `Fault.isValidation` | whether it was raised before any register was written |
-/

import ApparatusGraph.Foundry.Kind
import ApparatusGraph.Value.Basic

namespace ApparatusGraph

/-- Why an outside call failed: a message and the causes under it, the outermost first. -/
structure Failure where
  message : String
  causes : List String := []
  deriving DecidableEq

namespace Failure

/-- The messages from the outermost to the root. -/
def chain (f : Failure) : List String := f.message :: f.causes

/-- The failure seen from a wider context. -/
def within (f : Failure) (context : String) : Failure := ⟨context, f.chain⟩

end Failure

/-- Why an alignment is refused before it is run. -/
inductive StructuralFault where
  | missingIngress
  | duplicateIngress (count : Nat)
  | missingEgress
  | emptyName (position : Nat)
  | duplicateName (name : String)
  | unresolvedReference (node target : String)
  | tooManyFileAddresses (count most : Nat)
  | kindMismatch (node apparatus : String) (expected : ApparatusKind)
  | malformed (reason : String)
  deriving DecidableEq

/-- The wording of a structural fault. -/
def StructuralFault.message : StructuralFault → String
  | missingIngress => "Alignment has no ingress"
  | duplicateIngress count => s!"Alignment has {count} ingress operations, expected exactly one"
  | missingEgress => "Alignment has no egress"
  | emptyName position => s!"Operation at position {position} has an empty name"
  | duplicateName name => s!"Operation name '{name}' is used more than once"
  | unresolvedReference node target => s!"Node '{node}' points at unknown node '{target}'"
  | tooManyFileAddresses count most =>
    s!"Ingress declares {count} file addresses, at most {most} are allowed"
  | kindMismatch node apparatus expected =>
    s!"Node '{node}' needs a {expected.display} but '{apparatus}' is not one"
  | malformed reason => s!"Malformed alignment: {reason}"

/-- A side of an apparatus that declares types. -/
inductive Side where
  | input
  | output
  | whenTrue
  | whenFalse
  deriving DecidableEq

/-- The side in words. -/
def Side.display : Side → String
  | input => "input"
  | output => "output"
  | whenTrue => "true-branch output"
  | whenFalse => "false-branch output"

/-- Why an apparatus or a foundry cannot be built, or a name not be found. -/
inductive RegistryError where
  | missingName
  | missingContract (apparatus : String) (side : Side)
  | missingCallable (apparatus : String)
  | emptyVar (apparatus : String)
  | duplicateName (name : String)
  | notFound (name : String)
  deriving DecidableEq

/-- The wording of a registry error. -/
def RegistryError.message : RegistryError → String
  | missingName => "Apparatus is missing a name"
  | missingContract apparatus side =>
    s!"Apparatus '{apparatus}' is missing its {side.display} type declaration"
  | missingCallable apparatus => s!"Apparatus '{apparatus}' has no callable"
  | emptyVar apparatus => s!"Apparatus '{apparatus}' declares an empty var name"
  | duplicateName name => s!"Apparatus '{name}' is registered more than once"
  | notFound name => s!"Apparatus not found: {name}"

/-- The environment variables that override limits. -/
inductive LimitVariable where
  | maxSteps
  | timeoutSecs
  | timeoutMs
  deriving DecidableEq

/-- The name of a variable. -/
def LimitVariable.name : LimitVariable → String
  | maxSteps => "OPERANT_MAX_STEPS"
  | timeoutSecs => "OPERANT_TIMEOUT_SECS"
  | timeoutMs => "OPERANT_TIMEOUT_MS"

/-- Why a file of limits could not be read as text. -/
inductive FileError where
  | notFound
  | isDirectory
  | notText
  deriving DecidableEq

/-- The wording of a file error. -/
def FileError.message : FileError → String
  | notFound => "No such file or directory (os error 2)"
  | isDirectory => "Is a directory (os error 21)"
  | notText => "stream did not contain valid UTF-8"

/-- Why limits could not be loaded. -/
inductive LimitsError where
  | unreadable (cause : FileError)
  /-- the document is no TOML, or a limit has another type -/
  | malformed
  | badVariable (which : LimitVariable) (value : String)
  | invalid (reason : String)
  deriving DecidableEq

/-- The wording of an error of limits. -/
def LimitsError.message : LimitsError → String
  | unreadable cause => s!"IO error: {cause.message}"
  | malformed => "TOML parse error: not a document of limits"
  | badVariable which value => s!"Environment variable {which.name} has invalid value '{value}'"
  | invalid reason => s!"Invalid configuration: {reason}"

/-- Why a run, or the drafting before it, ended without an output. -/
inductive Fault where
  | structural (cause : StructuralFault)
  | unknownApparatus (node apparatus : String)
  | unboundRegister (node : String) (address : Address)
  | danglingReference (node target : String)
  | stepLimitExceeded (limit : Nat) (node : String)
  | timeoutExceeded (elapsedMs budgetMs : Nat)
  | cancelled (steps : Nat)
  | apparatusFailure (node apparatus : String) (cause : Failure)
  | missingOutput (node : String) (var : Var)
  | registry (cause : RegistryError)
  | blueprint (cause : Failure)
  | limits (cause : LimitsError)
  deriving DecidableEq

/-- The families of faults. -/
inductive FaultKind where
  | structural
  | unknownApparatus
  | unboundRegister
  | danglingReference
  | stepLimitExceeded
  | timeoutExceeded
  | cancelled
  | apparatusFailure
  | missingOutput
  | registry
  | blueprint
  | config
  deriving DecidableEq

/-- The name of a family in logs. -/
def FaultKind.display : FaultKind → String
  | structural => "Structural"
  | unknownApparatus => "UnknownApparatus"
  | unboundRegister => "UnboundRegister"
  | danglingReference => "DanglingReference"
  | stepLimitExceeded => "StepLimitExceeded"
  | timeoutExceeded => "TimeoutExceeded"
  | cancelled => "Cancelled"
  | apparatusFailure => "ApparatusFailure"
  | missingOutput => "MissingOutput"
  | registry => "Registry"
  | blueprint => "Blueprint"
  | config => "Config"

namespace Fault

/-- The wording of a fault. -/
def message : Fault → String
  | structural cause => s!"Structural fault: {cause.message}"
  | unknownApparatus node apparatus => s!"Node '{node}' references unknown apparatus '{apparatus}'"
  | unboundRegister node address => s!"Node '{node}' read unbound register '{address}'"
  | danglingReference node target => s!"Node '{node}' points at missing node '{target}'"
  | stepLimitExceeded limit node => s!"Step limit of {limit} exceeded at node '{node}'"
  | timeoutExceeded elapsedMs budgetMs =>
    s!"Run exceeded its {budgetMs}ms budget after {elapsedMs}ms"
  | cancelled steps => s!"Run cancelled after {steps} steps"
  | apparatusFailure node apparatus cause =>
    s!"Apparatus '{apparatus}' failed at node '{node}': {cause.message}"
  | missingOutput node var => s!"Apparatus at node '{node}' did not produce required output '{var}'"
  | registry cause => s!"Registry error: {cause.message}"
  | blueprint cause => s!"Blueprint failed: {cause.message}"
  | limits cause => s!"Configuration error: {cause.message}"

/-- The family of a fault. -/
def kind : Fault → FaultKind
  | structural _ => .structural
  | unknownApparatus .. => .unknownApparatus
  | unboundRegister .. => .unboundRegister
  | danglingReference .. => .danglingReference
  | stepLimitExceeded .. => .stepLimitExceeded
  | timeoutExceeded .. => .timeoutExceeded
  | cancelled _ => .cancelled
  | apparatusFailure .. => .apparatusFailure
  | missingOutput .. => .missingOutput
  | registry _ => .registry
  | blueprint _ => .blueprint
  | limits _ => .config

/-- The node a fault was raised at, if it belongs to one. -/
def node? : Fault → Option String
  | unknownApparatus node _ => some node
  | unboundRegister node _ => some node
  | danglingReference node _ => some node
  | stepLimitExceeded _ node => some node
  | apparatusFailure node _ _ => some node
  | missingOutput node _ => some node
  | _ => none

/-- True of the faults that are raised before a run has touched any register. -/
def isValidation : Fault → Bool
  | structural _ => true
  | unknownApparatus .. => true
  | registry _ => true
  | limits _ => true
  | _ => false

end Fault
end ApparatusGraph
