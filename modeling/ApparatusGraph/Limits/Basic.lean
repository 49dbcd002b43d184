/-
# Limits

What a run may use: a number of node visits and, if there is a budget, a number of
milliseconds.  A budget given as a duration is rounded up to whole milliseconds and
stops at the greatest 64-bit number.

Limits under which every run would fail are refused by `Limits.validate`.
-/

import ApparatusGraph.Fault
import ApparatusGraph.Text.Outline
import ApparatusGraph.Value.Json

namespace ApparatusGraph

open Json (Source Result Shape)

/-- A length of time: seconds and nanoseconds below one second. -/
structure Duration where
  seconds : UInt64
  nanos : Nat
  nanos_lt : nanos < 1000000000

namespace Duration

/-- The length in nanoseconds. -/
def toNanos (d : Duration) : Nat := d.seconds.toNat * 1000000000 + d.nanos

/-- The length in milliseconds, a begun one counted whole, at most `2^64 - 1`. -/
def toMillis (d : Duration) : UInt64 :=
  .ofNat (min ((d.toNanos + 999999) / 1000000) (0xFFFFFFFFFFFFFFFF))

/-- The length of a number of seconds. -/
def ofSeconds (secs : UInt64) : Duration := ⟨secs, 0, by decide⟩

/-- The length of a number of milliseconds. -/
def ofMillis (ms : UInt64) : Duration :=
  ⟨ms / 1000, ms.toNat % 1000 * 1000000, by omega⟩

end Duration

/-- What a run may use. -/
structure Limits where
  /-- node visits, ingress and egress included -/
  maxSteps : UInt64 := 256
  /-- milliseconds from start to end; none for any number -/
  timeoutMs : Option UInt64 := some 300000
  deriving DecidableEq

namespace Limits

/-- The number of seconds of the budget when nothing is said. -/
def defaultTimeoutSecs : Nat := 300

/-- The limits with a budget of a duration. -/
def withTimeout (l : Limits) (d : Duration) : Limits := { l with timeoutMs := some d.toMillis }

/-- The budget as a duration. -/
def timeout (l : Limits) : Option Duration := l.timeoutMs.map .ofMillis

/-- Refuses limits under which every run would fail. -/
def validate (l : Limits) : Except LimitsError Unit :=
  if l.maxSteps = 0 then .error (.invalid "max_steps must be at least 1")
  else if l.timeoutMs = some 0 then
    .error (.invalid "timeout_ms must be positive, use no timeout to disable")
  else .ok ()

/-- The JSON form of limits. -/
def toJson (l : Limits) : Json :=
  .object [("max_steps", .uint64 l.maxSteps), ("timeout_ms", .option .uint64 l.timeoutMs)]

/-- The fields of limits; what is left out has the default. -/
def shape : Shape Limits :=
  pure mk <*> .optional "max_steps" Json.readUInt64 256 <*>
    .optional "timeout_ms" (Json.readOption Json.readUInt64) (some 300000)

/-- Reads limits. -/
def read (source : Source) : Result Limits := shape.read "OperateConfig" .direct source

/-- The outline of limits. -/
def outline (l : Limits) : Outline :=
  .record "OperateConfig"
    [("max_steps", .nat l.maxSteps.toNat),
      ("timeout_ms", .option (fun ms => .nat ms.toNat) l.timeoutMs)] false

end Limits
end ApparatusGraph
