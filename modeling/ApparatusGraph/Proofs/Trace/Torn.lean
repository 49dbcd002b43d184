/-
# Lines over a writer that fails

A writer that fails has taken a part of what it was given.  The line of a step is two writes, its
text and a line feed, and nothing is taken back when one of them fails: the line is torn, and what
is recorded next goes on where it was torn.

| the record of a step | comes to | leaves |
| --- | --- | --- |
| goes well | its text and a line feed | whole lines |
| fails in the flush | its text and a line feed | whole lines |
| fails in the line feed | its text | a torn line |
| fails in the text | a part of its text, if any | a torn line, if any |

So a step that was recorded is there with a line feed after it, whatever fails later, but its line
begins with what was torn before it (`Medium.line_of_takes`): it has a line of its own only
where no line was torn.  Over a writer that takes a number of bytes and no more, that is every
step that was recorded (`Medium.line_of_takes_capped`).
-/

import Mathlib.Data.List.DropRight
import ApparatusGraph.Proofs.Trace.Lines

namespace ApparatusGraph

variable {ω : Type}

/-! ## Bytes -/

/-- Bytes that stop where a line does. -/
def EndsLine (bytes : List UInt8) : Prop := ∀ b, bytes.getLast? = some b → b = 10

/-- After some bytes stands a line: it begins there, a line feed follows it, and it has none. -/
structure LineAt (bytes before line : List UInt8) : Prop where
  begins : EndsLine before
  whole : 10 ∉ line
  ends : before ++ line ++ [10] <+: bytes

section Bytes

variable {bytes before torn : List UInt8}

/-- Where there are no bytes yet, no line is torn. -/
theorem EndsLine.nil : EndsLine [] := nofun

/-- Bytes with a line feed at their end stop where a line does. -/
theorem EndsLine.feed (bytes : List UInt8) : EndsLine (bytes ++ [10]) := by
  intro b hb
  rw [List.getLast?_concat] at hb
  exact (Option.some.inj hb).symm

/-- Where bytes stop with a line, no part of one stands at their end. -/
theorem eq_nil_of_endsLine (htorn : 10 ∉ torn) (h : EndsLine (before ++ torn)) : torn = [] := by
  rcases List.eq_nil_or_concat' torn with hnil | ⟨front, b, rfl⟩
  · exact hnil
  · have hb : b = 10 := h b (by rw [← List.append_assoc, List.getLast?_concat])
    exact absurd (List.mem_append_right front (List.mem_singleton.2 hb.symm)) htorn

/-- Bytes that are one line hold no other. -/
theorem LineAt.eq_of_feed {line : List UInt8} (hbytes : 10 ∉ bytes)
    (h : LineAt (bytes ++ [10]) before line) : line = bytes := by
  obtain ⟨rest, hrest⟩ := h.ends
  rw [List.append_assoc, List.singleton_append] at hrest
  obtain ⟨rfl, -⟩ := (List.append_cons_inj_of_notMem hbytes List.not_mem_nil).1 hrest.symm
  have hends : EndsLine ([] ++ before) := h.begins
  rw [eq_nil_of_endsLine (fun hmem => hbytes (List.mem_append_left line hmem)) hends,
    List.nil_append]

/-- Bytes are whole lines and the line that is torn after them. -/
theorem exists_torn (bytes : List UInt8) :
    ∃ before torn, bytes = before ++ torn ∧ EndsLine before ∧ 10 ∉ torn := by
  refine ⟨bytes.rdropWhile (· != 10), bytes.rtakeWhile (· != 10),
    List.rdropWhile_append_rtakeWhile.symm, fun b hb => ?_, fun hmem => ?_⟩
  · have hne : bytes.rdropWhile (· != 10) ≠ [] := fun hnil => by rw [hnil] at hb; cases hb
    rw [List.getLast?_eq_some_getLast hne] at hb
    have hlast := List.rdropWhile_last_not (· != 10) bytes hne
    rw [Option.some.inj hb, bne_iff_ne, not_not] at hlast
    exact hlast
  · have hfeed := List.mem_rtakeWhile_imp hmem
    exact absurd hfeed (by decide)

/-- Only a line feed has the byte of a line feed. -/
theorem eq_newline_of_mem_utf8 {c : Char} (h : 10 ∈ String.utf8EncodeChar c) : c = '\n' := by
  have hbyte (n : Nat) (hn : 10 = UInt8.ofNat n) : n % 256 = 10 :=
    (UInt8.ofNat_eq_iff_mod_eq_toNat n 10).1 hn.symm
  -- A character of one byte has its own number for it, and the others have none below 128.
  revert h
  fun_cases String.utf8EncodeChar c with
  | case1 code hcode =>
    intro h
    have hmod := hbyte code (List.mem_singleton.1 h)
    have hten : code = 10 := by omega
    exact Char.toNat_inj.1 hten
  | case2 =>
    simp only [List.mem_cons, List.not_mem_nil, or_false]
    rintro (h | h) <;> have := hbyte _ h <;> omega
  | case3 =>
    simp only [List.mem_cons, List.not_mem_nil, or_false]
    rintro (h | h | h) <;> have := hbyte _ h <;> omega
  | case4 =>
    simp only [List.mem_cons, List.not_mem_nil, or_false]
    rintro (h | h | h | h) <;> have := hbyte _ h <;> omega

/-- The bytes of a text are those of its characters, in order. -/
theorem utf8_eq_flatMap (s : String) :
    s.toUTF8.toList = s.toList.flatMap String.utf8EncodeChar := by
  rw [toList_data, String.toUTF8_eq_toByteArray, ← String.ofList_toList (s := s),
    String.toByteArray_ofList, String.toList_ofList, List.utf8Encode, List.data_toByteArray]

/-- A text has a line feed if its bytes have that of one. -/
theorem newline_mem_of_utf8 {s : String} (h : 10 ∈ s.toUTF8.toList) : '\n' ∈ s.toList := by
  rw [utf8_eq_flatMap] at h
  obtain ⟨c, hc, hmem⟩ := List.mem_flatMap.1 h
  rwa [eq_newline_of_mem_utf8 hmem] at hc

end Bytes

/-! ## Steps -/

namespace Step

/-- The text of a step as bytes. -/
def bytes (s : Step) : List UInt8 := s.toJson.compact.toUTF8.toList

/-- The text of a step has no line feed. -/
theorem newline_not_mem_bytes (s : Step) : 10 ∉ s.bytes := by
  intro h
  have hnewline := newline_mem_of_utf8 h
  rw [Json.compact, String.toList_ofList] at hnewline
  exact Json.oneLine_write s.toJson 0 hnewline

/-- The text of a step has bytes. -/
theorem bytes_ne_nil (s : Step) : s.bytes ≠ [] := by
  intro h
  have hcompact : s.toJson.compact = "" := utf8_inj (h.trans (by rw [toList_data]; rfl))
  rw [Json.compact, ← String.toList_inj, String.toList_ofList] at hcompact
  unfold toJson at hcompact
  cases hcompact

end Step

/-! ## Writers -/

namespace Writer

/-- A writer appends: it takes all that it is given, or fails and has taken a part from the
beginning, and a flush takes nothing. -/
structure Appends (w : Writer ω) (taken : ω → List UInt8) : Prop where
  all : ∀ {bytes kept kept'}, w.write bytes kept = (.ok (), kept') →
    taken kept' = taken kept ++ bytes
  part : ∀ {bytes kept cause kept'}, w.write bytes kept = (.error cause, kept') →
    ∃ n < bytes.length, taken kept' = taken kept ++ bytes.take n
  flushed : ∀ kept, taken (w.flush kept).2 = taken kept

/-- A capped writer appends. -/
theorem appends_capped : capped.Appends Capped.written where
  all {bytes kept kept'} h := by
    simp only [capped] at h
    split at h
    · cases h
      rfl
    · split at h
      · cases h
        rfl
      · cases h
  part {bytes kept cause kept'} h := by
    simp only [capped] at h
    split at h
    · cases h
    · rename_i room _
      split at h
      · cases h
      · rename_i hroom
        cases h
        exact ⟨room, Nat.lt_of_not_le hroom, rfl⟩
  flushed kept := rfl

/-- A capped writer that has failed is full. -/
theorem room_of_capped {bytes : List UInt8} {c c' : Capped} {cause : Failure}
    (h : capped.write bytes c = (.error cause, c')) : c'.room = some 0 := by
  simp only [capped] at h
  split at h
  · cases h
  · split at h <;> cases h
    rfl

/-- A full writer takes nothing any more. -/
theorem capped_full {bytes : List UInt8} {c : Capped} (hbytes : bytes ≠ [])
    (hfull : c.room = some 0) : capped.write bytes c = (.error ⟨"disk full", []⟩, c) := by
  obtain ⟨room, flushFails, written⟩ := c
  obtain rfl : room = some 0 := hfull
  have hlong : ¬bytes.length ≤ 0 := fun hle => hbytes (List.length_eq_zero_iff.1 (Nat.le_zero.1 hle))
  simp only [capped]
  rw [if_neg hlong, List.take_zero, List.append_nil]

/-- What a writer has taken, and how its next writes go. -/
structure Script where
  /-- how many bytes a write takes that is to fail; none for one that is not -/
  cuts : List (Option Nat)
  written : List UInt8 := []

/-- Fails when it is told to, if there is more to take than it is told to take. -/
def scripted : Writer Script where
  write bytes c :=
    match c.cuts.head?.join with
    | some n =>
      if n < bytes.length then
        (.error ⟨"disk full", []⟩, ⟨c.cuts.tail, c.written ++ bytes.take n⟩)
      else (.ok (), ⟨c.cuts.tail, c.written ++ bytes⟩)
    | none => (.ok (), ⟨c.cuts.tail, c.written ++ bytes⟩)
  flush c := (.ok (), c)

/-- A writer that fails when it is told to appends. -/
theorem appends_scripted : scripted.Appends Script.written where
  all {bytes kept kept'} h := by
    simp only [scripted] at h
    split at h
    · split at h <;> cases h
      rfl
    · cases h
      rfl
  part {bytes kept cause kept'} h := by
    simp only [scripted] at h
    split at h
    · rename_i n _
      split at h <;> cases h
      exact ⟨n, ‹_›, rfl⟩
    · cases h
  flushed kept := rfl

end Writer

/-! ## Records -/

namespace Medium

/-- What the record of a step comes to over a writer that appends, and the bytes it appends. -/
inductive Adds (s : Step) : Except Failure Unit → List UInt8 → Prop where
  | line : Adds s (.ok ()) (s.bytes ++ [10])
  | unflushed {cause} : Adds s (.error cause) (s.bytes ++ [10])
  | unended {cause} : Adds s (.error cause) s.bytes
  | cut {cause n} (short : n < s.bytes.length) : Adds s (.error cause) (s.bytes.take n)

/-- A medium takes a step that is handed to it after others. -/
def Takes {μ : Type} (m : Medium μ) (before : List Step) (s : Step) (kept : μ) : Prop :=
  (m.record s (m.keep before kept)).result = .ok ()

variable {w : Writer ω} {taken : ω → List UInt8} {kept : ω} {before after : List Step} {s : Step}

/-- What the record of a step comes to says what it appends. -/
theorem exists_adds (hw : w.Appends taken) (s : Step) (kept : ω) : ∃ added,
    Adds s ((lines w).record s kept).result added ∧
      taken ((lines w).record s kept).kept = taken kept ++ added := by
  show ∃ added, Adds s (w.line s kept).1 added ∧ taken (w.line s kept).2 = taken kept ++ added
  unfold Writer.line
  split
  · rename_i cause kept' htext
    obtain ⟨n, hn, htaken⟩ := hw.part htext
    exact ⟨_, .cut hn, htaken⟩
  · rename_i kept' htext
    have htaken : taken kept' = taken kept ++ s.bytes := hw.all htext
    split
    · rename_i cause kept'' hfeed
      obtain ⟨n, hn, hpart⟩ := hw.part hfeed
      obtain rfl : n = 0 := Nat.lt_one_iff.1 hn
      refine ⟨_, .unended, ?_⟩
      rw [hpart, htaken, List.take_zero, List.append_nil]
    · rename_i kept'' hfeed
      have hline : taken (w.flush kept'').2 = taken kept ++ (s.bytes ++ [10]) := by
        rw [hw.flushed, hw.all hfeed, htaken, List.append_assoc]
      cases hflush : w.flush kept'' with
      | mk result last =>
        rw [hflush] at hline
        cases result with
        | error cause => exact ⟨_, .unflushed, hline⟩
        | ok done => exact ⟨_, .line, hline⟩

/-- Nothing that was taken is taken back. -/
theorem prefix_keep (hw : w.Appends taken) (steps : List Step) (kept : ω) :
    taken kept <+: taken ((lines w).keep steps kept) := by
  induction steps generalizing kept with
  | nil => exact List.prefix_rfl
  | cons s rest ih =>
    obtain ⟨added, -, htaken⟩ := exists_adds hw s kept
    exact (htaken ▸ List.prefix_append ..).trans (ih ((lines w).record s kept).kept)

/-- A step that is taken adds its line. -/
theorem taken_of_takes (hw : w.Appends taken) (h : (lines w).Takes before s kept) :
    taken ((lines w).keep (before ++ [s]) kept) =
      taken ((lines w).keep before kept) ++ (s.bytes ++ [10]) := by
  obtain ⟨added, hadds, htaken⟩ := exists_adds hw s ((lines w).keep before kept)
  rw [show ((lines w).record s _).result = .ok () from h] at hadds
  cases hadds
  rw [keep_append]
  exact htaken

/-- Steps after which no line is torn: the last of them that came to anything came to a line. -/
inductive Intact (w : Writer ω) (taken : ω → List UInt8) (kept : ω) : List Step → Prop where
  | start : Intact w taken kept []
  | line {before : List Step} {s : Step}
      (added : taken ((lines w).keep (before ++ [s]) kept) =
        taken ((lines w).keep before kept) ++ (s.bytes ++ [10])) :
      Intact w taken kept (before ++ [s])
  | nothing {before : List Step} {s : Step} (intact : Intact w taken kept before)
      (unchanged : taken ((lines w).keep (before ++ [s]) kept) =
        taken ((lines w).keep before kept)) :
      Intact w taken kept (before ++ [s])

/-- Bytes stop with a line after a record when it appends a line, or when it appends nothing and
they did before. -/
theorem endsLine_adds_iff {result : Except Failure Unit} {written added : List UInt8}
    (h : Adds s result added) : EndsLine (written ++ added) ↔
      added = s.bytes ++ [10] ∨ added = [] ∧ EndsLine written := by
  constructor
  · intro hends
    have hnothing (hfeed : 10 ∉ added) : added = [] ∧ EndsLine written := by
      obtain rfl := eq_nil_of_endsLine hfeed hends
      exact ⟨rfl, by rwa [List.append_nil] at hends⟩
    cases h with
    | line => exact .inl rfl
    | unflushed => exact .inl rfl
    | unended => exact .inr (hnothing s.newline_not_mem_bytes)
    | cut short =>
      exact .inr (hnothing fun hmem => s.newline_not_mem_bytes (List.mem_of_mem_take hmem))
  · rintro (rfl | ⟨rfl, hends⟩)
    · rw [← List.append_assoc]
      exact .feed _
    · rwa [List.append_nil]

/-- No line is torn after some steps exactly when the bytes stop where a line does. -/
theorem intact_iff (hw : w.Appends taken) (hstart : EndsLine (taken kept)) (before : List Step) :
    Intact w taken kept before ↔ EndsLine (taken ((lines w).keep before kept)) := by
  constructor
  · intro h
    induction h with
    | start => exact hstart
    | line added =>
      rw [added, ← List.append_assoc]
      exact .feed _
    | nothing intact unchanged ih => rwa [unchanged]
  · intro h
    induction before using List.reverseRecOn with
    | nil => exact .start
    | append_singleton before s ih =>
      obtain ⟨added, hadds, htaken⟩ := exists_adds hw s ((lines w).keep before kept)
      have hkeep : taken ((lines w).keep (before ++ [s]) kept) =
          taken ((lines w).keep before kept) ++ added := by
        rw [keep_append]
        exact htaken
      rw [hkeep] at h
      rcases (endsLine_adds_iff hadds).1 h with rfl | ⟨rfl, hends⟩
      · exact .line hkeep
      · exact .nothing (ih hends) (hkeep.trans (List.append_nil _))

/-- A step that is taken leaves nothing torn. -/
theorem Intact.of_takes (hw : w.Appends taken) (h : (lines w).Takes before s kept) :
    Intact w taken kept (before ++ [s]) :=
  .line (taken_of_takes hw h)

/-- **A step that was taken is there, after what was torn before it.**  Whatever writes fail
before and after it, its text is followed by a line feed.  Its line begins with what records that
failed had torn off, if they had: it is the line of this step alone exactly when the last record
before it that came to anything came to a line, as the record of a step that was taken does. -/
theorem line_of_takes {w : Writer ω} {taken : ω → List UInt8} {kept : ω} {before : List Step}
    {s : Step} (hw : w.Appends taken) (hstart : taken kept = [])
    (h : (lines w).Takes before s kept) (after : List Step) :
    ∃ whole torn, taken ((lines w).keep before kept) = whole ++ torn ∧
      LineAt (taken ((lines w).keep (before ++ s :: after) kept)) whole (torn ++ s.bytes) ∧
      (torn = [] ↔ Intact w taken kept before) ∧
      ∀ earlier s', before = earlier ++ [s'] → (lines w).Takes earlier s' kept → torn = [] := by
  obtain ⟨whole, torn, hbefore, hwhole, htorn⟩ :=
    exists_torn (taken ((lines w).keep before kept))
  have hintact : torn = [] ↔ Intact w taken kept before := by
    rw [intact_iff hw (hstart ▸ .nil), hbefore]
    constructor
    · rintro rfl
      rwa [List.append_nil]
    · exact eq_nil_of_endsLine htorn
  refine ⟨whole, torn, hbefore, ⟨hwhole, ?_, ?_⟩, hintact, ?_⟩
  · exact fun hmem => (List.mem_append.1 hmem).elim htorn s.newline_not_mem_bytes
  · have hkeep : (lines w).keep (before ++ s :: after) kept =
        (lines w).keep after ((lines w).keep (before ++ [s]) kept) := by
      rw [← keep_append, List.append_assoc, List.singleton_append]
    have hline : whole ++ (torn ++ s.bytes) ++ [10] =
        taken ((lines w).keep (before ++ [s]) kept) := by
      rw [taken_of_takes hw h, hbefore, List.append_assoc, List.append_assoc, List.append_assoc]
    rw [hkeep, hline]
    exact prefix_keep hw after _
  · rintro earlier s' rfl htakes
    exact hintact.2 (.of_takes hw htakes)

/-- A record over a capped writer leaves whole lines, or the writer full. -/
theorem record_capped (s : Step) (c : Capped) :
    let after := ((lines Writer.capped).record s c).kept
    EndsLine after.written ∨ after.room = some 0 := by
  show EndsLine (Writer.capped.line s c).2.written ∨ (Writer.capped.line s c).2.room = some 0
  unfold Writer.line
  split
  · rename_i cause kept' htext
    exact .inr (Writer.room_of_capped htext)
  · rename_i kept' htext
    split
    · rename_i cause kept'' hfeed
      exact .inr (Writer.room_of_capped hfeed)
    · rename_i kept'' hfeed
      have hline : kept''.written = kept'.written ++ [10] := Writer.appends_capped.all hfeed
      refine .inl ?_
      rw [Writer.appends_capped.flushed, hline]
      exact .feed _

/-- Records over a capped writer leave whole lines, or the writer full. -/
theorem keep_capped (steps : List Step) {c : Capped} (h : EndsLine c.written ∨ c.room = some 0) :
    let after := (lines Writer.capped).keep steps c
    EndsLine after.written ∨ after.room = some 0 := by
  induction steps generalizing c with
  | nil => exact h
  | cons s rest ih => exact ih (record_capped s c)

/-- **Over a capped writer each step that is taken has a line of its own.**  A write that fails
leaves the writer full, so nothing is taken after a line was torn. -/
theorem line_of_takes_capped {c : Capped} {before : List Step} {s : Step} (hstart : c.written = [])
    (h : (lines Writer.capped).Takes before s c) (after : List Step) :
    ∃ whole, LineAt ((lines Writer.capped).keep (before ++ s :: after) c).written whole s.bytes := by
  obtain ⟨whole, torn, -, hline, hintact, -⟩ :=
    line_of_takes Writer.appends_capped hstart h after
  have hempty : EndsLine c.written := hstart ▸ .nil
  have hends : EndsLine ((lines Writer.capped).keep before c).written := by
    obtain hends | hfull := keep_capped before (.inl hempty)
    · exact hends
    · have hrefused : (Writer.capped.line s ((lines Writer.capped).keep before c)).1 = .ok () := h
      unfold Writer.line at hrefused
      rw [show s.toJson.compact.toUTF8.toList = s.bytes from rfl,
        Writer.capped_full s.bytes_ne_nil hfull] at hrefused
      cases hrefused
  obtain rfl := hintact.2 ((intact_iff Writer.appends_capped hempty before).2 hends)
  exact ⟨whole, hline⟩

/-- A record that fails in the text of a step can come to nothing, and the next step is taken. -/
theorem keep_untaken (s s' : Step) :
    (lines Writer.scripted).keep [s] ⟨[some 0], []⟩ = ⟨[], []⟩ ∧
      (lines Writer.scripted).Takes [s] s' ⟨[some 0], []⟩ := by
  have hkeep : (lines Writer.scripted).keep [s] ⟨[some 0], []⟩ = ⟨[], []⟩ := by
    have hcut : Writer.scripted.write s.bytes ⟨[some 0], []⟩ =
        (.error ⟨"disk full", []⟩, ⟨[], []⟩) := if_pos (List.length_pos_iff.2 s.bytes_ne_nil)
    show (Writer.scripted.line s ⟨[some 0], []⟩).2 = _
    unfold Writer.line
    rw [show s.toJson.compact.toUTF8.toList = s.bytes from rfl, hcut]
  refine ⟨hkeep, ?_⟩
  unfold Takes
  rw [hkeep]
  rfl

/-- A step has its line when the record before it failed and had come to nothing. -/
theorem line_of_takes_second :
    let s : Step :=
      { runId := .ofNat 1, index := 1, node := .ingress, startedAt := ⟨0, 0⟩, endedAt := ⟨0, 0⟩,
        inputs := ∅, outputs := ∅ }
    let s' := { s with index := 2 }
    let kept : Writer.Script := ⟨[some 0], []⟩
    (lines Writer.scripted).Takes [s] s' kept ∧
      LineAt ((lines Writer.scripted).keep [s, s'] kept).written [] s'.bytes := by
  intro s s' kept
  obtain ⟨hkeep, htakes⟩ := keep_untaken s s'
  refine ⟨htakes, ?_⟩
  obtain ⟨whole, torn, hbefore, hline, -, -⟩ :=
    line_of_takes Writer.appends_scripted rfl htakes []
  rw [hkeep] at hbefore
  obtain ⟨rfl, rfl⟩ := List.append_eq_nil_iff.1 hbefore.symm
  rwa [List.singleton_append, List.nil_append] at hline

/-- Two steps are one line when the record of the first fails between its two writes. -/
theorem keep_unended (s s' : Step) :
    ¬(lines Writer.scripted).Takes [] s ⟨[none, some 0], []⟩ ∧
      (lines Writer.scripted).Takes [s] s' ⟨[none, some 0], []⟩ ∧
      ((lines Writer.scripted).keep [s, s'] ⟨[none, some 0], []⟩).written =
        s.bytes ++ s'.bytes ++ [10] := by
  have hkeep : (lines Writer.scripted).keep [s] ⟨[none, some 0], []⟩ = ⟨[], s.bytes ++ []⟩ := rfl
  have htakes : (lines Writer.scripted).Takes [s] s' ⟨[none, some 0], []⟩ := rfl
  have hadded := taken_of_takes Writer.appends_scripted htakes
  rw [hkeep, List.append_nil, ← List.append_assoc] at hadded
  exact ⟨nofun, htakes, hadded⟩

/-- **A record that fails between its two writes damages the step that is taken next:** there is no
line of that step alone. -/
theorem line_damaged :
    let s : Step :=
      { runId := .ofNat 1, index := 1, node := .ingress, startedAt := ⟨0, 0⟩, endedAt := ⟨0, 0⟩,
        inputs := ∅, outputs := ∅ }
    let s' := { s with index := 2 }
    let kept : Writer.Script := ⟨[none, some 0], []⟩
    Writer.scripted.Appends Writer.Script.written ∧ ¬(lines Writer.scripted).Takes [] s kept ∧
      (lines Writer.scripted).Takes [s] s' kept ∧
      ¬∃ before, LineAt ((lines Writer.scripted).keep [s, s'] kept).written before s'.bytes := by
  intro s s' kept
  obtain ⟨hfails, htakes, hwritten⟩ := keep_unended s s'
  refine ⟨Writer.appends_scripted, hfails, htakes, ?_⟩
  rintro ⟨before, hline⟩
  rw [hwritten] at hline
  have hbytes : 10 ∉ s.bytes ++ s'.bytes := fun hmem =>
    (List.mem_append.1 hmem).elim s.newline_not_mem_bytes s'.newline_not_mem_bytes
  exact s.bytes_ne_nil (List.self_eq_append_left.1 (hline.eq_of_feed hbytes))

end Medium

end ApparatusGraph
