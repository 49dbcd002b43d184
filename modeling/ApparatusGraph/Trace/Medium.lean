/-
# Media

A medium takes the steps of runs, one call for each.  It keeps what it likes between
calls, may say something to the log, and may fail; a failure is reported and changes
nothing else.

| medium | keeps | fails |
| --- | --- | --- |
| `Medium.transcript` | every step | never |
| `Medium.lines` | a writer, one line of JSON for each step | when the writer does |
| `Medium.tracing` | nothing; says each step to the log | never |
| `Medium.refusing` | nothing | always |

A writer takes bytes.  `Writer.capped` takes a number of bytes and no more: what does
not fit is cut and the write fails.
-/

import ApparatusGraph.Event
import ApparatusGraph.Trace.Step
import ApparatusGraph.Text.Outline

namespace ApparatusGraph

/-- What one recording comes to: whether it failed, what the medium keeps, what it says. -/
structure Recorded (μ : Type) where
  result : Except Failure Unit
  kept : μ
  events : List Event := []

/-- What takes the steps of runs; `μ` is the type of what it keeps. -/
structure Medium (μ : Type) where
  record : Step → μ → Recorded μ

/-- What takes bytes; `ω` is the type of what it keeps. -/
structure Writer (ω : Type) where
  /-- takes all of the bytes, or a part of them and fails -/
  write : List UInt8 → ω → Except Failure Unit × ω
  /-- asks for what was taken to be passed on -/
  flush : ω → Except Failure Unit × ω

/-- What a capped writer has taken, and how many bytes it still takes. -/
structure Capped where
  /-- none for any number -/
  room : Option Nat := none
  flushFails : Bool := false
  written : List UInt8 := []

namespace Writer

/-- Takes bytes up to a number of them. -/
def capped : Writer Capped where
  write bytes c :=
    match c.room with
    | none => (.ok (), { c with written := c.written ++ bytes })
    | some room =>
      if bytes.length ≤ room then
        (.ok (), { c with room := some (room - bytes.length), written := c.written ++ bytes })
      else
        (.error ⟨"disk full", []⟩,
          { c with room := some 0, written := c.written ++ bytes.take room })
  flush c := (if c.flushFails then .error ⟨"flush failed", []⟩ else .ok (), c)

/-- Takes every byte. -/
def memory : Writer (List UInt8) where
  write bytes written := (.ok (), written ++ bytes)
  flush written := (.ok (), written)

/-- Writes the line of a step: its JSON text, a line feed, a flush; stops at the first failure. -/
def line {ω : Type} (w : Writer ω) (s : Step) (kept : ω) : Except Failure Unit × ω :=
  match w.write s.toJson.compact.toUTF8.toList kept with
  | (.error cause, kept) => (.error cause, kept)
  | (.ok (), kept) =>
    match w.write [10] kept with
    | (.error cause, kept) => (.error cause, kept)
    | (.ok (), kept) => w.flush kept

end Writer

/-- The bytes as text; what is not text at the end becomes a replacement character. -/
def textOfBytes (bytes : List UInt8) : String :=
  let whole := ByteArray.mk bytes.toArray
  let rec shorten : Nat → String
    | 0 => ""
    | n + 1 =>
      match String.fromUTF8? (whole.extract 0 (n + 1)) with
      | some s => s
      | none => shorten n
  let text := shorten bytes.length
  if text.utf8ByteSize = bytes.length then text else text.push (.ofNat 0xFFFD)

namespace Medium

/-- Keeps every step. -/
def transcript : Medium (Array Step) where
  record s steps := ⟨.ok (), steps.push s, []⟩

/-- Writes a line of JSON for each step. -/
def lines {ω : Type} (w : Writer ω) : Medium ω where
  record s kept :=
    let (result, kept) := w.line s kept
    ⟨result, kept, []⟩

/-- The outline of a medium that writes lines. -/
def linesOutline : Outline := .record "JsonLinesMedium" [] true

/-- Says each step to the log. -/
def tracing : Medium Unit where
  record s _ :=
    ⟨.ok (), (), [.stepCompleted s.index.toNat s.node s.branch s.inputs.size s.outputs.size
      (s.endedAt.microsSince s.startedAt)]⟩

/-- Fails for every step. -/
def refusing (cause : Failure) : Medium Unit where
  record _ _ := ⟨.error cause, (), []⟩

end Medium
end ApparatusGraph
