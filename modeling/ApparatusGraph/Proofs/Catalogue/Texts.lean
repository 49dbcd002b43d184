/-
# What the text catalogue says of one text

The apparatus of the text catalogue are written one by one.  Here each is said to give one
answer for the texts at its vars, whatever else its input holds, and the answers are compared:

| apparatus | agrees with |
| --- | --- |
| `trim` | `Text.IsTrimOf`, and itself |
| `is_empty` | `trim` |
| switchers on lengths | `length` |
| `concat` | `length`, part by part |
| `contains` | `concat`, and each of its parts |
-/

import ApparatusGraph.Proofs.Catalogue.Contracts
import ApparatusGraph.Proofs.Text.Trimming

namespace ApparatusGraph

variable {σ : Type}

namespace Catalogue

variable {input : Record} {var : Var} {s left right separator needle : String}

/-! ## Answers -/

/-- What `concat` places between two texts: the text of the separator, or nothing where there is
none or where it is no text. -/
inductive SeparatedBy (input : Record) : String → Prop where
  | text {separator : String} (held : input.HoldsText "separator" separator) :
      SeparatedBy input separator
  | nothing (absent : ∀ separator, ¬input.HoldsText "separator" separator) : SeparatedBy input ""

/-- A text that is held at a var is taken from there. -/
theorem textVarOr_of_holdsText {default : String} (h : input.HoldsText var s) :
    textVarOr input var default = s := by
  obtain ⟨⟨value, tag⟩, hget, hvalue⟩ := h
  obtain rfl : value = .text s := hvalue
  unfold textVarOr
  rw [hget]
  rfl

/-- Where no text is held, the default is taken. -/
theorem textVarOr_of_absent {default : String} (h : ∀ s, ¬input.HoldsText var s) :
    textVarOr input var default = default := by
  unfold textVarOr
  cases hget : input.get? var with
  | none => rfl
  | some p =>
    obtain ⟨value, tag⟩ := p
    cases value with
    | text s => exact absurd ⟨_, hget, rfl⟩ (h s)
    | _ => rfl

/-- Texts are joined with the separator that the record says, or with nothing. -/
theorem SeparatedBy.textVarOr_eq (h : SeparatedBy input separator) :
    textVarOr input "separator" "" = separator := by
  cases h with
  | text held => exact textVarOr_of_holdsText held
  | nothing absent => exact textVarOr_of_absent absent

/-- A processor on one text gives the image of the text. -/
theorem process_textMap {name description : String} {f : String → String} {p : Processor σ}
    (hbuilt : textMap name description f = .ok p) (hs : input.HoldsText "text" s) :
    p.process input = .ok (single "text" (.text (f s))) := by
  obtain ⟨-, -, -, -, hprocess⟩ := Draft.toProcessor_eq_ok.1 hbuilt
  rw [← Option.some.inj hprocess]
  exact congrArg Call.answer (bind_eq_ok.2 ⟨s, textVar_eq_ok.2 hs, rfl⟩)

/-- The joining processor gives the two texts around their separator. -/
theorem process_concat {p : Processor σ} (hbuilt : concat = .ok p)
    (hleft : input.HoldsText "left" left) (hright : input.HoldsText "right" right)
    (hseparator : SeparatedBy input separator) :
    p.process input = .ok (single "text" (.text (left ++ separator ++ right))) := by
  obtain ⟨-, -, -, -, hprocess⟩ := Draft.toProcessor_eq_ok.1 hbuilt
  rw [← Option.some.inj hprocess, ← hseparator.textVarOr_eq]
  exact congrArg Call.answer (bind_eq_ok.2 ⟨left, textVar_eq_ok.2 hleft,
    bind_eq_ok.2 ⟨right, textVar_eq_ok.2 hright, rfl⟩⟩)

/-- The counting processor gives the number of characters. -/
theorem process_length {p : Processor σ} (hbuilt : length = .ok p)
    (hs : input.HoldsText "text" s) (hlt : s.length < 0x8000000000000000) :
    p.process input = .ok (single "length" (.integer (.ofNat s.length))) := by
  obtain ⟨-, -, -, -, hprocess⟩ := Draft.toProcessor_eq_ok.1 hbuilt
  rw [← Option.some.inj hprocess]
  exact congrArg Call.answer (bind_eq_ok.2 ⟨s, textVar_eq_ok.2 hs,
    bind_eq_ok.2 ⟨_, characterCount_of_lt hlt, rfl⟩⟩)

/-- The switcher on blank texts decides whether a text is blank, and passes on the one that is
not. -/
theorem check_isEmpty {w : Switcher σ} (hbuilt : isEmpty = .ok w)
    (hs : input.HoldsText "text" s) :
    w.check input =
      .ok (Text.isBlankText s, if Text.isBlankText s then ∅ else single "text" (.text s)) := by
  obtain ⟨-, -, -, -, -, hcheck⟩ := Draft.toSwitcher_eq_ok.1 hbuilt
  rw [← Option.some.inj hcheck]
  refine congrArg Call.answer (bind_eq_ok.2 ⟨s, textVar_eq_ok.2 hs, ?_⟩)
  cases Text.isBlankText s with
  | true => rfl
  | false => rfl

/-- The switcher on parts decides whether a text has another in it, and passes it on. -/
theorem check_contains {w : Switcher σ} (hbuilt : contains = .ok w)
    (hs : input.HoldsText "text" s) (hneedle : input.HoldsText "needle" needle) :
    w.check input = .ok (hasInfix needle.toList s.toList, single "text" (.text s)) := by
  obtain ⟨-, -, -, -, -, hcheck⟩ := Draft.toSwitcher_eq_ok.1 hbuilt
  rw [← Option.some.inj hcheck]
  exact congrArg Call.answer (bind_eq_ok.2 ⟨s, textVar_eq_ok.2 hs,
    bind_eq_ok.2 ⟨needle, textVar_eq_ok.2 hneedle, rfl⟩⟩)

/-- A switcher on lengths decides whether a text has more characters than its limit, and passes it
on. -/
theorem check_longerThan {name : String} {limit : Nat} {w : Switcher σ}
    (hbuilt : longerThan name limit = .ok w) (hs : input.HoldsText "text" s) :
    w.check input = .ok (decide (limit < s.length), single "text" (.text s)) := by
  obtain ⟨-, -, -, -, -, hcheck⟩ := Draft.toSwitcher_eq_ok.1 hbuilt
  rw [← Option.some.inj hcheck]
  exact congrArg Call.answer (bind_eq_ok.2 ⟨s, textVar_eq_ok.2 hs, rfl⟩)

/-! ## Parts of texts -/

/-- The search finds characters that stand in a row somewhere. -/
theorem hasInfix_iff {needle cs : List Char} : hasInfix needle cs = true ↔ needle <:+: cs := by
  induction cs with
  | nil => exact List.isEmpty_iff.trans List.infix_nil.symm
  | cons c cs ih =>
    unfold hasInfix
    rw [Bool.or_eq_true, List.isPrefixOf_iff_prefix, ih, List.infix_cons_iff]

/-- The characters of a text stand in a row in another when that is made of it and of a text at
each side. -/
theorem toList_infix_iff {needle s : String} :
    needle.toList <:+: s.toList ↔ ∃ before after, s = before ++ needle ++ after := by
  constructor
  · rintro ⟨before, after, h⟩
    refine ⟨.ofList before, .ofList after, ?_⟩
    rw [← String.toList_inj, String.toList_append, String.toList_append, String.toList_ofList,
      String.toList_ofList, h]
  · rintro ⟨before, after, rfl⟩
    rw [String.toList_append, String.toList_append]
    exact List.infix_append ..

/-- The search finds a text exactly where it lies between two others. -/
theorem hasInfix_toList_iff {needle s : String} : hasInfix needle.toList s.toList = true ↔
    ∃ before after, s = before ++ needle ++ after :=
  hasInfix_iff.trans toList_infix_iff

/-! ## Answers compared -/

/-- The apparatus of the text catalogue that are compared.  The switchers on lengths, of which
there are many, are compared with these. -/
structure Texts (σ : Type) where
  trimmer : Processor σ
  joiner : Processor σ
  counter : Processor σ
  judge : Switcher σ
  finder : Switcher σ
  trimmer_built : trim = .ok trimmer
  joiner_built : concat = .ok joiner
  counter_built : length = .ok counter
  judge_built : isEmpty = .ok judge
  finder_built : contains = .ok finder

namespace Texts

/-- `trim` makes a text out of another. -/
def Trims (c : Texts σ) (s t : String) : Prop :=
  ∀ input : Record, input.HoldsText "text" s →
    c.trimmer.process input = .ok (single "text" (.text t))

/-- `concat` makes a text out of three others. -/
def Joins (c : Texts σ) (left separator right t : String) : Prop :=
  ∀ input : Record, input.HoldsText "left" left → input.HoldsText "right" right →
    SeparatedBy input separator → c.joiner.process input = .ok (single "text" (.text t))

/-- `length` gives a text a number. -/
def Counts (c : Texts σ) (s : String) (n : Int64) : Prop :=
  ∀ input : Record, input.HoldsText "text" s →
    c.counter.process input = .ok (single "length" (.integer n))

/-- `is_empty` gives a verdict on a text, and passes the text on when it is not that it is blank. -/
def Judges (c : Texts σ) (s : String) (verdict : Bool) : Prop :=
  ∀ input : Record, input.HoldsText "text" s →
    c.judge.check input = .ok (verdict, if verdict then ∅ else single "text" (.text s))

/-- `contains` says whether it found one text in another. -/
def Finds (c : Texts σ) (s needle : String) (found : Bool) : Prop :=
  ∀ input : Record, input.HoldsText "text" s → input.HoldsText "needle" needle →
    c.finder.check input = .ok (found, single "text" (.text s))

/-- What the apparatus of the text catalogue say of one text agrees. -/
structure Consistent (c : Texts σ) : Prop where
  /-- Trimming leaves the one part between blank characters that is blank at neither end, and
  leaves that part as it is. -/
  trimmed : ∀ s, ∃ t, c.Trims s t ∧ c.Trims t t ∧ ∀ u, Text.IsTrimOf u s ↔ u = t
  /-- A text is judged blank when trimming leaves nothing, which is when it has blank characters
  only. -/
  judged : ∀ s, ∃ t verdict, c.Trims s t ∧ c.Judges s verdict ∧ (verdict = true ↔ t = "") ∧
    (verdict = true ↔ ∀ character ∈ s.toList, Text.isBlank character = true)
  /-- A text is longer than a limit when the number of its characters is. -/
  measured : ∀ s, s.length < 0x8000000000000000 → ∃ n : Int64, c.Counts s n ∧ n.toInt = s.length ∧
    ∀ name limit, Text.isBlankText name = false → ∃ w : Switcher σ,
      longerThan name limit = .ok w ∧ ∀ input : Record, input.HoldsText "text" s →
        w.check input = .ok (decide ((limit : Int) < n.toInt), single "text" (.text s))
  /-- Three texts are joined in order, and the numbers of their characters are added up. -/
  joined : ∀ left separator right, c.Joins left separator right (left ++ separator ++ right) ∧
    ((left ++ separator ++ right).length < 0x8000000000000000 → ∃ whole first second third : Int64,
      c.Counts (left ++ separator ++ right) whole ∧ c.Counts left first ∧
      c.Counts separator second ∧ c.Counts right third ∧
      whole.toInt = first.toInt + second.toInt + third.toInt)
  /-- A text is found in another when that has it for a part, as every text has the empty one. -/
  found : ∀ s needle, ∃ found, c.Finds s needle found ∧
    (found = true ↔ ∃ before after, s = before ++ needle ++ after) ∧ (needle = "" → found = true)
  /-- What is joined is found in the result, and so is the result itself. -/
  recovered : ∀ left separator right,
    ∀ needle ∈ [left ++ separator ++ right, left, separator, right],
      c.Finds (left ++ separator ++ right) needle true

variable (c : Texts σ)

/-- The trimming processor trims. -/
theorem trims (s : String) : c.Trims s (Text.trim s) :=
  fun _ hs => process_textMap c.trimmer_built hs

/-- The joining processor joins. -/
theorem joins (left separator right : String) :
    c.Joins left separator right (left ++ separator ++ right) :=
  fun _ hleft hright hseparator => process_concat c.joiner_built hleft hright hseparator

/-- The counting processor counts. -/
theorem counts (h : s.length < 0x8000000000000000) : c.Counts s (.ofNat s.length) :=
  fun _ hs => process_length c.counter_built hs h

/-- The switcher on blank texts tells which are blank. -/
theorem judges (s : String) : c.Judges s (Text.isBlankText s) :=
  fun _ hs => check_isEmpty c.judge_built hs

/-- The switcher on parts tells which are found. -/
theorem finds (s needle : String) : c.Finds s needle (hasInfix needle.toList s.toList) :=
  fun _ hs hneedle => check_contains c.finder_built hs hneedle

/-- A part of a text is found in it. -/
theorem finds_part (before needle after : String) :
    c.Finds (before ++ needle ++ after) needle true := by
  have hfound := c.finds (before ++ needle ++ after) needle
  rwa [hasInfix_toList_iff.2 ⟨before, after, rfl⟩] at hfound

/-- The built apparatus agree with one another on every text. -/
theorem consistent : c.Consistent where
  trimmed s := by
    refine ⟨Text.trim s, c.trims s, ?_, fun u => Text.isTrimOf_iff⟩
    have hagain := c.trims (Text.trim s)
    rwa [Text.trim_trim] at hagain
  judged s := ⟨_, _, c.trims s, c.judges s, Text.trim_eq_empty_iff.symm, List.all_eq_true⟩
  measured s h := by
    have hn : (Int64.ofNat s.length).toInt = s.length := Int64.toInt_ofNat_of_lt h
    refine ⟨_, c.counts h, hn, fun name limit named => ?_⟩
    obtain ⟨w, hbuilt⟩ := exists_longerThan (σ := σ) limit named
    refine ⟨w, hbuilt, fun input hs => ?_⟩
    rw [check_longerThan hbuilt hs, hn]
    exact congrArg (fun longer => Call.ok (longer, _)) (decide_eq_decide.2 Int.ofNat_lt.symm)
  joined left separator right := by
    refine ⟨c.joins left separator right, fun h => ?_⟩
    have hlength : (left ++ separator ++ right).length =
        left.length + separator.length + right.length := by
      rw [String.length_append, String.length_append]
    have hleft : left.length < 0x8000000000000000 := by omega
    have hseparator : separator.length < 0x8000000000000000 := by omega
    have hright : right.length < 0x8000000000000000 := by omega
    refine ⟨_, _, _, _, c.counts h, c.counts hleft, c.counts hseparator, c.counts hright, ?_⟩
    rw [Int64.toInt_ofNat_of_lt h, Int64.toInt_ofNat_of_lt hleft,
      Int64.toInt_ofNat_of_lt hseparator, Int64.toInt_ofNat_of_lt hright, hlength]
    push_cast
    rfl
  found s needle := by
    refine ⟨_, c.finds s needle, hasInfix_toList_iff, ?_⟩
    rintro rfl
    exact hasInfix_toList_iff.2 ⟨"", s, by rw [String.empty_append, String.empty_append]⟩
  recovered left separator right needle hneedle := by
    simp only [List.mem_cons, List.not_mem_nil, or_false] at hneedle
    rcases hneedle with rfl | rfl | rfl | rfl
    · have hwhole := c.finds_part "" (left ++ separator ++ right) ""
      rwa [String.empty_append, String.append_empty] at hwhole
    · have hfirst := c.finds_part "" needle (separator ++ right)
      rwa [String.empty_append, ← String.append_assoc] at hfirst
    · exact c.finds_part left needle right
    · have hlast := c.finds_part (left ++ separator) needle ""
      rwa [String.append_empty] at hlast

end Texts

/-- The apparatus to compare are built. -/
theorem exists_texts : Nonempty (Texts σ) := by
  obtain ⟨trimmer, htrimmer, -, -⟩ : ∃ p : Processor σ, trim = .ok p ∧ _ :=
    exists_textMap Text.trim rfl
  obtain ⟨joiner, hjoiner, -, -⟩ := exists_concat (σ := σ)
  obtain ⟨counter, hcounter, -, -⟩ := exists_length (σ := σ)
  obtain ⟨judge, hjudge, -, -⟩ := exists_isEmpty (σ := σ)
  obtain ⟨finder, hfinder, -, -⟩ := exists_contains (σ := σ)
  exact ⟨⟨trimmer, joiner, counter, judge, finder, htrimmer, hjoiner, hcounter, hjudge, hfinder⟩⟩

/-- **The text catalogue agrees with itself.**  Its apparatus are built, and what they say of
every text fits together, of texts that can be counted where numbers of characters are
concerned. -/
theorem texts_consistent : Nonempty (Texts σ) ∧ ∀ c : Texts σ, c.Consistent :=
  ⟨exists_texts, Texts.consistent⟩

end Catalogue
end ApparatusGraph
