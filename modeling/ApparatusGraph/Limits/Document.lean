/-
# Limits from documents and files

A TOML document may set `max_steps` and `timeout_ms` to whole numbers; other names in
it are ignored and what is left out has the default.  A file holds such a document in
UTF-8.

`Limits.ofEnvironment` takes the defaults, the variables that are set and those of an
environment file beside them.
-/

import ApparatusGraph.Limits.Basic
import ApparatusGraph.Limits.Dotenv
import ApparatusGraph.Limits.Environment
import ApparatusGraph.Toml.Document

namespace ApparatusGraph
namespace Limits

/-- The whole number under a name, the default when nothing stands there. -/
def tomlNumber (t : Toml.Table) (name : String) (default : Option UInt64) :
    Except LimitsError (Option UInt64) :=
  match t.get? name with
  | none => .ok default
  | some (.scalar (.integer i)) =>
    if 0 ≤ i then .ok (some i.toUInt64) else .error .malformed
  | some _ => .error .malformed

/-- The limits of a TOML document. -/
def ofToml (document : String) : Except LimitsError Limits := do
  match Toml.document? document with
  | none => .error .malformed
  | some t =>
    let maxSteps ← tomlNumber t "max_steps" (some 256)
    let timeoutMs ← tomlNumber t "timeout_ms" (some 300000)
    let limits : Limits := ⟨maxSteps.getD 256, timeoutMs⟩
    limits.validate
    .ok limits

/-- What is found under a path. -/
inductive FileContent where
  | missing
  | directory
  | bytes (content : ByteArray)

/-- The limits of a file. -/
def ofFile : FileContent → Except LimitsError Limits
  | .missing => .error (.unreadable .notFound)
  | .directory => .error (.unreadable .isDirectory)
  | .bytes content =>
    match String.fromUTF8? content with
    | some document => ofToml document
    | none => .error (.unreadable .notText)

/-- The limits that variables ask for, over the defaults; variables of an environment file count
where a variable is not set. -/
def ofEnvironment (env : Named String) (dotenv : Option String) : Except LimitsError Limits :=
  let env := match dotenv with
    | some text => Dotenv.load env text
    | none => env
  ({} : Limits).override fun which => env.get? which.name

end Limits
end ApparatusGraph
