/-
# Limits from the environment

Three variables override limits, in this order: the number of steps, the budget in
seconds, the budget in milliseconds.  A variable that is set must hold a number, or
for a budget nothing or the word `none`, which lift it; blanks around it are ignored.
The first bad variable is the error, also when a later one would replace its value.
What comes out is validated.
-/

import ApparatusGraph.Limits.Basic
import ApparatusGraph.Text.Blank

namespace ApparatusGraph

/-- The number of a text of decimal digits, a plus sign allowed before them; none when there is
anything else or more than 64 bits. -/
def Text.uint64? (s : String) : Option UInt64 :=
  let digits := match s.toList with
    | '+' :: rest => rest
    | cs => cs
  let n := Decimal.digitsValue digits
  if digits ≠ [] ∧ digits.all Char.isDigit ∧ n < 0x10000000000000000 then some (.ofNat n) else none

namespace Limits

/-- The number of steps that a variable asks for. -/
def stepsOf (value : String) : Except LimitsError UInt64 :=
  match Text.uint64? (Text.trim value) with
  | some n => .ok n
  | none => .error (.badVariable .maxSteps value)

/-- The budget that a variable asks for, in its own unit: a number, or none for no budget. -/
def budgetOf (which : LimitVariable) (value : String) : Except LimitsError (Option UInt64) :=
  let text := Text.trim value
  if text.toLower = "none" ∨ text = "" then .ok none
  else
    match Text.uint64? text with
    | some n => .ok (some n)
    | none => .error (.badVariable which value)

/-- A budget of whole seconds in milliseconds. -/
def millisOfSeconds (secs : UInt64) : UInt64 := (Duration.ofSeconds secs).toMillis

/-- The limits with every variable that is set taken over. -/
def override (l : Limits) (lookup : LimitVariable → Option String) : Except LimitsError Limits := do
  let maxSteps ← match lookup .maxSteps with
    | some value => stepsOf value
    | none => .ok l.maxSteps
  let timeoutMs ← match lookup .timeoutSecs with
    | some value => (·.map millisOfSeconds) <$> budgetOf .timeoutSecs value
    | none => .ok l.timeoutMs
  let timeoutMs ← match lookup .timeoutMs with
    | some value => budgetOf .timeoutMs value
    | none => .ok timeoutMs
  let limits : Limits := ⟨maxSteps, timeoutMs⟩
  limits.validate
  .ok limits

end Limits
end ApparatusGraph
