/-
# Traces in lines

A medium that writes lines, over a writer that takes every byte, writes the text of the steps it
was handed (`Medium.keep_lines`): the text of each step, and a line feed.  No step has a line feed
in its text, so the text is cut into the steps again (`Step.splitOn_text`); and a step without
doubles is known by its text, but for the spelling of its run and of its times
(`Step.toJson_inj`).  So the bytes tell what the steps were.
-/

import ApparatusGraph.Proofs.Json.Compact
import ApparatusGraph.Proofs.Run.Medium
import ApparatusGraph.Proofs.Value.RoundTrip

namespace ApparatusGraph

/-! ## Bytes of texts -/

/-- From a position on, the bytes are listed in order after those before it. -/
theorem toList_loop (bytes : ByteArray) (i : Nat) (before : List UInt8) :
    ByteArray.toList.loop bytes i before = before.reverse ++ bytes.data.toList.drop i := by
  fun_induction ByteArray.toList.loop bytes i before with
  | case1 i before hlt ih =>
    have hlength : i < bytes.data.toList.length := hlt
    have hget : bytes.get! i = bytes.data.toList[i] := getElem!_pos bytes.data i hlt
    rw [ih, List.reverse_cons, List.append_assoc, List.singleton_append, hget,
      List.drop_eq_getElem_cons hlength]
  | case2 i before hge =>
    have hnil : bytes.data.toList.drop i = [] := List.drop_eq_nil_of_le (Nat.not_lt.1 hge)
    rw [hnil, List.append_nil]

/-- The bytes of an array are those of its data. -/
theorem toList_data (bytes : ByteArray) : bytes.toList = bytes.data.toList :=
  toList_loop bytes 0 []

/-- The bytes of two texts in a row are those of the one and of the other. -/
theorem utf8_append (s t : String) :
    (s ++ t).toUTF8.toList = s.toUTF8.toList ++ t.toUTF8.toList := by
  rw [toList_data, toList_data, toList_data]
  exact ByteArray.toList_data_append

/-- A line feed is one byte. -/
theorem utf8_newline : "\n".toUTF8.toList = [10] := by
  rw [toList_data]
  rfl

/-- Texts of the same bytes are equal. -/
theorem utf8_inj {s t : String} (h : s.toUTF8.toList = t.toUTF8.toList) : s = t := by
  rw [toList_data, toList_data] at h
  exact String.toByteArray_inj.1 (ByteArray.ext (Array.toList_inj.1 h))

/-! ## Steps -/

namespace Step

/-- No value that went in or came out holds a double. -/
def FloatFree (s : Step) : Prop := s.inputs.FloatFree ∧ s.outputs.FloatFree

/-- Two steps that say the same of a visit, apart from the run and the times of it. -/
structure Alike (s s' : Step) : Prop where
  index : s.index = s'.index
  node : s.node = s'.node
  inputs : s.inputs = s'.inputs
  outputs : s.outputs = s'.outputs
  branch : s.branch = s'.branch

/-- The texts of steps, each with a line feed after it. -/
def text : List Step → String
  | [] => ""
  | s :: rest => s.toJson.compact ++ "\n" ++ text rest

variable {s s' : Step}

/-- The JSON form of a step without doubles has none. -/
theorem floatFree_toJson (h : s.FloatFree) : s.toJson.FloatFree := by
  have hinputs := Record.floatFree_toJson h.1
  have houtputs := Record.floatFree_toJson h.2
  have hnode := (s.node.plain_toJson (k := 0)).free
  refine Json.floatFree_object (List.forall_mem_append.2 ⟨?_, ?_⟩)
  · simp only [List.forall_mem_cons]
    exact ⟨trivial, trivial, hnode, trivial, trivial, hinputs, houtputs, fun _ => nofun⟩
  · cases s.branch with
    | none => exact fun _ => nofun
    | some verdict =>
      simp only [List.forall_mem_cons]
      exact ⟨trivial, fun _ => nofun⟩

/-- **The JSON form of a step tells what the step says of a visit.** -/
theorem toJson_inj (h : s.toJson = s'.toJson) : s.Alike s' := by
  unfold toJson at h
  have hmembers := Json.object.inj h
  obtain ⟨hfields, hbranch⟩ := List.append_inj hmembers (by simp only [List.length_cons])
  simp only [List.cons.injEq, Prod.mk.injEq, true_and, and_true] at hfields
  obtain ⟨-, hindex, hnode, -, -, hinputs, houtputs⟩ := hfields
  refine ⟨Json.injective_of_read Json.readUInt64_ofJson hindex,
    Json.injective_of_read Waypoint.read_ofJson hnode,
    Json.injective_of_read Record.read_ofJson hinputs,
    Json.injective_of_read Record.read_ofJson houtputs, ?_⟩
  -- A verdict is a member more, so it is there in both or in neither.
  cases hs : s.branch <;> cases hs' : s'.branch <;> simp only [hs, hs'] at hbranch <;>
    cases hbranch
  · rfl
  · rfl

/-- Steps with one compact text are alike. -/
theorem compact_inj (h : s.FloatFree) (h' : s'.FloatFree)
    (htext : s.toJson.compact = s'.toJson.compact) : s.Alike s' :=
  toJson_inj (Json.compact_inj (floatFree_toJson h) (floatFree_toJson h') htext)

/-- The text of steps is cut into them at its line feeds. -/
theorem splitOn_text (steps : List Step) :
    (text steps).toList.splitOn '\n' = steps.map (·.toJson.compact.toList) ++ [[]] := by
  induction steps with
  | nil => rfl
  | cons s rest ih =>
    have hline : '\n' ∉ s.toJson.compact.toList := by
      rw [Json.compact, String.toList_ofList]
      exact Json.oneLine_write s.toJson 0
    have htext : (text (s :: rest)).toList =
        s.toJson.compact.toList ++ '\n' :: (text rest).toList := by
      rw [text, String.toList_append, String.toList_append, List.append_assoc]
      rfl
    rw [htext, List.splitOn_append_cons_self_of_not_mem hline, ih]
    rfl

/-- Rows of steps with the same lines are alike step by step. -/
theorem alike_of_lines {steps steps' : List Step} (h : ∀ s ∈ steps, s.FloatFree)
    (h' : ∀ s ∈ steps', s.FloatFree)
    (hlines : steps.map (·.toJson.compact.toList) = steps'.map (·.toJson.compact.toList)) :
    List.Forall₂ Alike steps steps' := by
  induction steps generalizing steps' with
  | nil =>
    obtain rfl := List.map_eq_nil_iff.1 hlines.symm
    exact .nil
  | cons s rest ih =>
    obtain ⟨s', rest', rfl, hline, hrest⟩ := List.map_eq_cons_iff.1 hlines.symm
    refine .cons ?_ (ih ?_ ?_ hrest.symm)
    · exact compact_inj (h s List.mem_cons_self) (h' s' List.mem_cons_self)
        (String.toList_inj.1 hline.symm)
    · exact fun other hother => h other (List.mem_cons_of_mem _ hother)
    · exact fun other hother => h' other (List.mem_cons_of_mem _ hother)

/-- **Steps without doubles are known by their text,** as far as it goes. -/
theorem alike_of_text {steps steps' : List Step} (h : ∀ s ∈ steps, s.FloatFree)
    (h' : ∀ s ∈ steps', s.FloatFree) (htext : text steps = text steps') :
    List.Forall₂ Alike steps steps' := by
  have hsplit := splitOn_text steps
  rw [htext, splitOn_text steps'] at hsplit
  exact alike_of_lines h h' (List.append_cancel_right hsplit).symm

end Step

/-! ## Lines -/

namespace Medium

/-- A writer that takes every byte takes every line. -/
theorem record_lines (s : Step) (written : List UInt8) :
    (lines Writer.memory).record s written =
      ⟨.ok (), written ++ (s.toJson.compact ++ "\n").toUTF8.toList, []⟩ := by
  rw [utf8_append, utf8_newline, ← List.append_assoc]
  rfl

/-- **The bytes are those of the text of the steps.** -/
theorem keep_lines (steps : List Step) (written : List UInt8) :
    (lines Writer.memory).keep steps written = written ++ (Step.text steps).toUTF8.toList := by
  induction steps generalizing written with
  | nil =>
    rw [Step.text, toList_data]
    exact (List.append_nil written).symm
  | cons s rest ih =>
    have hrest := ih (written ++ (s.toJson.compact ++ "\n").toUTF8.toList)
    rw [List.append_assoc, ← utf8_append] at hrest
    show (lines Writer.memory).keep rest ((lines Writer.memory).record s written).kept = _
    rw [record_lines]
    exact hrest

/-- **Lines are a faithful trace.**  A medium that writes lines over a writer that takes every byte
takes every step.  What it has written is a text that is empty or ends with a line feed; cut at its
line feeds, it is the text of each step in order, whatever characters the steps have in them.  And
steps without doubles that come to the same bytes are as many and say the same of their visits. -/
theorem lines_faithful :
    (∀ (s : Step) (written : List UInt8),
      ((lines Writer.memory).record s written).result = .ok ()) ∧
    (∀ steps : List Step, ∃ text : String,
      (lines Writer.memory).keep steps [] = text.toUTF8.toList ∧
        text.toList.splitOn '\n' = steps.map (·.toJson.compact.toList) ++ [[]] ∧
        (text = "" ↔ steps = [])) ∧
    ∀ steps steps' : List Step, (∀ s ∈ steps, s.FloatFree) → (∀ s ∈ steps', s.FloatFree) →
      (lines Writer.memory).keep steps [] = (lines Writer.memory).keep steps' [] →
        steps.length = steps'.length ∧ List.Forall₂ Step.Alike steps steps' := by
  refine ⟨fun s written => ?_, fun steps => ⟨Step.text steps, ?_, Step.splitOn_text steps, ?_⟩,
    fun steps steps' h h' hbytes => ?_⟩
  · rw [record_lines]
  · rw [keep_lines, List.nil_append]
  · constructor
    · intro hempty
      have hsplit := Step.splitOn_text steps
      rw [hempty] at hsplit
      have hnil : [] ++ [[]] = steps.map (·.toJson.compact.toList) ++ [[]] := hsplit
      exact List.map_eq_nil_iff.1 (List.append_cancel_right hnil).symm
    · rintro rfl
      rfl
  · rw [keep_lines, keep_lines, List.nil_append, List.nil_append] at hbytes
    have halike := Step.alike_of_text h h' (utf8_inj hbytes)
    exact ⟨halike.length_eq, halike⟩

/-- Two steps with line feeds and quotes in them are two lines. -/
theorem lines_faithful_newline :
    let s : Step :=
      { runId := .ofNat 1, index := 1, node := .process "a\nb", startedAt := ⟨0, 0⟩,
        endedAt := ⟨0, 0⟩, inputs := ∅, outputs := (∅ : Record).insert "x\n" (.text "\"\n") }
    let steps := [s, { s with index := 2, branch := some true }]
    (∀ s ∈ steps, s.FloatFree) ∧ List.Forall₂ Step.Alike steps steps ∧
      ∃ text : String, (lines Writer.memory).keep steps [] = text.toUTF8.toList ∧
        (text.toList.splitOn '\n').length = 3 := by
  intro s steps
  have hs : s.FloatFree := by
    refine ⟨fun _ => nofun, fun entry hentry => ?_⟩
    obtain rfl := List.mem_singleton.1 hentry
    trivial
  have hfree : ∀ s ∈ steps, s.FloatFree := by
    simp only [steps, List.forall_mem_cons]
    exact ⟨hs, hs, fun _ => nofun⟩
  obtain ⟨text, hbytes, hsplit, -⟩ := lines_faithful.2.1 steps
  refine ⟨hfree, (lines_faithful.2.2 steps steps hfree hfree rfl).2, text, hbytes, ?_⟩
  rw [hsplit]
  rfl

end Medium
end ApparatusGraph
