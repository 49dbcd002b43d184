/-
# Records, written and read back

A shape reads a record when the draft it takes from the members is finished to the record
(`Json.Shape.Reads`).  A single field is read wherever it stands among the members, as long
as it stands there once (`Reads.fieldOr`).  Two groups of fields without a common name are read
together (`Reads.seq`): what the one takes, the other skips, so their drafts grow side by side.

Lists and maps are read back item by item (`readList_ofJson`, `readMap_ofJson`).
-/

import Mathlib.Data.List.Perm.Basic
import ApparatusGraph.Proofs.Json.Source
import ApparatusGraph.Proofs.Registers
import ApparatusGraph.Value.Json

namespace ApparatusGraph
namespace Json

variable {α β : Type}

/-! ## Texts, lists and maps -/

/-- A text is read as itself. -/
theorem readText_ofJson (s : String) : readText (.ofJson (.text s)) = .ok s := rfl

/-- Items are read one by one. -/
theorem readItems_ofItems {item : Source → Result α} {l : List α} {items : List Json}
    (h : List.Forall₂ (fun a json => item (.ofJson json) = .ok a) l items) :
    readItems item (Source.ofItems items) = .ok l := by
  induction h with
  | nil => rfl
  | cons ha _ ih =>
    rw [Source.ofItems, readItems, ha, ih]
    rfl

/-- A list is read when its items are. -/
theorem readList_ofJson {item : Source → Result α} {l : List α} {items : List Json}
    (h : List.Forall₂ (fun a json => item (.ofJson json) = .ok a) l items) :
    readList item (.ofJson (.list items)) = .ok l := by
  rw [Source.ofJson]
  exact readItems_ofItems h

/-- A list is read when each of its items is. -/
theorem readList_map {item : Source → Result α} {f : α → Json}
    (h : ∀ a, item (.ofJson (f a)) = .ok a) (l : List α) :
    readList item (.ofJson (.list (l.map f))) = .ok l :=
  readList_ofJson (List.forall₂_map_right_iff.2 (List.forall₂_same.2 fun a _ => h a))

/-- A list of texts is read as itself. -/
theorem readList_texts (l : List String) :
    readList readText (.ofJson (.list (l.map .text))) = .ok l := readList_map readText_ofJson l

/-- Members are read into a map one by one, the later of two with one name winning. -/
theorem readEntries_ofMembers {value : Source → Result α} {f : α → Json}
    (h : ∀ a, value (.ofJson (f a)) = .ok a) (m : Named α) (pairs : List (String × α)) :
    readEntries value m (Source.ofMembers (pairs.map fun (name, a) => (name, f a))) =
      .ok (m.insertAll pairs) := by
  induction pairs generalizing m with
  | nil => rfl
  | cons pair rest ih =>
    obtain ⟨name, a⟩ := pair
    calc readEntries value m
          (Source.ofMembers (((name, a) :: rest).map fun (name, a) => (name, f a)))
        = (do
            let a ← value (.ofJson (f a))
            readEntries value (m.insert name a)
              (Source.ofMembers (rest.map fun (name, a) => (name, f a)))) := rfl
      _ = readEntries value (m.insert name a)
            (Source.ofMembers (rest.map fun (name, a) => (name, f a))) := by
          rw [h a]
          rfl
      _ = .ok ((m.insert name a).insertAll rest) := ih _

/-- A map is read from its members in any order, when its values are. -/
theorem readMap_ofJson {value : Source → Result α} {f : α → Json}
    (h : ∀ a, value (.ofJson (f a)) = .ok a) {m : Named α} {members : List (String × Json)}
    (hperm : members.Perm (m.entries.map fun (name, a) => (name, f a))) :
    readMap value (.ofJson (.object members)) = .ok m := by
  obtain ⟨pairs, rfl, hpairs⟩ : ∃ pairs, members = List.map _ pairs ∧ pairs.Perm m.entries :=
    (congrFun₂ (List.eq_map_comp_perm fun (name, a) => (name, f a)) members m.entries).mpr hperm
  rw [Source.ofJson]
  show readEntries value ∅ _ = _
  rw [readEntries_ofMembers h, Named.insertAll_of_perm hpairs]

/-- A map holds no double when its values hold none. -/
theorem floatFree_ofNamed {f : α → Json} {m : Named α}
    (h : ∀ entry ∈ m.entries, (f entry.2).FloatFree) : (ofNamed f m).FloatFree := by
  refine floatFree_object fun member hmember => ?_
  obtain ⟨entry, hentry, rfl⟩ := List.mem_map.1 hmember
  exact h entry hentry

/-- A map of plain values is plain. -/
theorem Plain.ofNamed {k : Nat} {f : α → Json} (h : ∀ a, Plain k (f a)) (m : Named α) :
    Plain (k + 1) (.ofNamed f m) := by
  refine object fun member hmember => ?_
  obtain ⟨entry, -, rfl⟩ := List.mem_map.1 hmember
  exact h entry.2

/-! ## Records -/

namespace Shape

/-- No field of a shape has this name. -/
def Skips (s : Shape α) (name : String) : Prop := ∀ source draft, s.take name source draft = none

/-- A shape without fields has a field of no name. -/
@[simp]
theorem skips_pure (a : α) (name : String) : (Pure.pure a : Shape α).Skips name := fun _ _ => rfl

/-- A field has its own name alone. -/
theorem skips_fieldOr {name other : String} {value : Source → Result α}
    {absent : Defect → Result α} : (fieldOr name value absent).Skips other ↔ other ≠ name := by
  constructor
  · intro h heq
    have htake := h .null none
    exact Option.some_ne_none _ ((if_pos heq).symm.trans htake)
  · exact fun hne _ _ => if_neg hne

/-- A field that must be there has its own name alone. -/
@[simp]
theorem skips_field {name other : String} {value : Source → Result α} :
    (field name value).Skips other ↔ other ≠ name := skips_fieldOr

/-- A field that may be left out has its own name alone. -/
@[simp]
theorem skips_optional {name other : String} {value : Source → Result α} {default : α} :
    (optional name value default).Skips other ↔ other ≠ name := skips_fieldOr

/-- The drafts of two groups of fields, side by side. -/
def both {f : Shape (α → β)} {x : Shape α} (d : f.Draft) (e : x.Draft) : (f <*> x).Draft := (d, e)

/-- Of two groups of fields, the first that has a name takes its member. -/
theorem take_both {f : Shape (α → β)} {x : Shape α} (name : String) (source : Source)
    (d : f.Draft) (e : x.Draft) :
    (f <*> x).take name source (both d e) =
      match f.take name source d with
      | some result => some ((both · e) <$> result)
      | none => (x.take name source e).map fun result => (both d ·) <$> result := rfl

/-- Two groups of fields have the names of both. -/
@[simp]
theorem skips_seq {f : Shape (α → β)} {x : Shape α} {name : String} :
    (f <*> x).Skips name ↔ f.Skips name ∧ x.Skips name := by
  constructor
  · intro h
    have hf : f.Skips name := by
      intro source d
      have hboth := h source (both d x.blank)
      rw [take_both] at hboth
      cases htake : f.take name source d with
      | none => rfl
      | some result =>
        rw [htake] at hboth
        cases hboth
    refine ⟨hf, fun source e => ?_⟩
    have hboth := h source (both f.blank e)
    rw [take_both, hf] at hboth
    exact Option.map_eq_none_iff.1 hboth
  · rintro ⟨hf, hx⟩ source draft
    rw [show draft = both draft.1 draft.2 from rfl, take_both, hf, hx]
    rfl

/-- The draft after one member more; a member without a meaning leaves no trace. -/
def after (s : Shape α) (draft : s.Draft) (name : String) (source : Source) : Result s.Draft :=
  (s.take name source draft).getD (.ok draft)

/-- A member without a meaning leaves no trace. -/
theorem after_of_skips {s : Shape α} {name : String} (h : s.Skips name) (draft : s.Draft)
    (source : Source) : s.after draft name source = .ok draft := by
  rw [after, h]
  rfl

/-- Members are taken one after the other. -/
theorem takeAll_member (s : Shape α) (draft : s.Draft) (name : String) (value : Json)
    (rest : List (String × Json)) :
    s.takeAll draft (Source.ofMembers ((name, value) :: rest)) =
      s.after draft name (.ofJson value) >>= (s.takeAll · (Source.ofMembers rest)) := by
  unfold after
  rw [Source.ofMembers]
  simp only [takeAll, readable, bind, Except.bind]
  cases s.take name (.ofJson value) draft <;> rfl

/-- Members without a meaning leave no trace. -/
theorem takeAll_of_skips {s : Shape α} {members : List (String × Json)}
    (h : ∀ member ∈ members, s.Skips member.1) (draft : s.Draft) :
    s.takeAll draft (Source.ofMembers members) = .ok draft := by
  induction members with
  | nil => rfl
  | cons member rest ih =>
    rw [takeAll_member, after_of_skips (h member List.mem_cons_self)]
    exact ih fun other hother => h other (List.mem_cons_of_mem _ hother)

section

variable {f : Shape (α → β)} {x : Shape α} {d d' : f.Draft} {e e' : x.Draft}

/-- One of two groups of fields takes a member, and the other is as it was. -/
theorem after_both {name : String} {source : Source} (hapart : f.Skips name ∨ x.Skips name)
    (hf : f.after d name source = .ok d') (hx : x.after e name source = .ok e') :
    (f <*> x).after (both d e) name source = .ok (both d' e') := by
  rcases hapart with hskip | hskip
  · rw [after_of_skips hskip] at hf
    cases hf
    unfold after at hx ⊢
    rw [take_both, hskip]
    cases htake : x.take name source e with
    | none => rw [htake] at hx; cases hx; rfl
    | some result => rw [htake] at hx; cases hx; rfl
  · rw [after_of_skips hskip] at hx
    cases hx
    unfold after at hf ⊢
    rw [take_both, hskip]
    cases htake : f.take name source d with
    | none => rw [htake] at hf; cases hf; rfl
    | some result => rw [htake] at hf; cases hf; rfl

/-- **Two groups of fields without a common name are taken side by side.** -/
theorem takeAll_both (hapart : ∀ name, f.Skips name ∨ x.Skips name)
    {members : List (String × Json)} (hf : f.takeAll d (Source.ofMembers members) = .ok d')
    (hx : x.takeAll e (Source.ofMembers members) = .ok e') :
    (f <*> x).takeAll (both d e) (Source.ofMembers members) = .ok (both d' e') := by
  induction members generalizing d e with
  | nil =>
    cases hf
    cases hx
    rfl
  | cons member rest ih =>
    rw [takeAll_member] at hf hx
    cases hd : f.after d member.1 (.ofJson member.2) with
    | error _ => rw [hd] at hf; cases hf
    | ok d₁ =>
      cases he : x.after e member.1 (.ofJson member.2) with
      | error _ => rw [he] at hx; cases hx
      | ok e₁ =>
        rw [hd] at hf
        rw [he] at hx
        rw [takeAll_member, after_both (hapart member.1) hd he]
        exact ih hf hx

end

/-- A shape reads these members as this record. -/
def Reads (s : Shape α) (members : List (String × Json)) (a : α) : Prop :=
  ∃ draft, s.takeAll s.blank (Source.ofMembers members) = .ok draft ∧ s.finish draft = .ok a

/-- One member has this name, and this is its value. -/
def Only (members : List (String × Json)) (name : String) (value : Json) : Prop :=
  members.filter (·.1 = name) = [(name, value)]

namespace Reads

variable {members : List (String × Json)}

/-- A shape without fields is read from any members. -/
theorem pure (a : α) : (Pure.pure a : Shape α).Reads members a :=
  ⟨(), takeAll_of_skips (fun _ _ => skips_pure a _) (), rfl⟩

/-- A field is found wherever it stands, as long as it stands there once. -/
theorem fieldOr {name : String} {value : Source → Result α} {absent : Defect → Result α}
    {json : Json} {a : α} (honly : Only members name json) (hvalue : value (.ofJson json) = .ok a) :
    (fieldOr name value absent).Reads members a := by
  refine ⟨some a, ?_, rfl⟩
  induction members with
  | nil => cases honly
  | cons member rest ih =>
    unfold Only at honly
    rw [takeAll_member]
    by_cases heq : member.1 = name
    · rw [List.filter_cons, if_pos (decide_eq_true heq), List.cons.injEq] at honly
      obtain ⟨rfl, hnone⟩ := honly
      have hafter : (Shape.fieldOr name value absent).after (Shape.fieldOr name value absent).blank
          name (.ofJson json) = .ok (some a) := by
        show (if name = name then some (some <$> value (.ofJson json)) else none).getD _ = _
        rw [if_pos rfl, hvalue]
        rfl
      rw [hafter]
      refine takeAll_of_skips (fun other hother => skips_fieldOr.2 ?_) _
      have hother := List.filter_eq_nil_iff.1 hnone other hother
      rwa [decide_eq_true_eq] at hother
    · rw [List.filter_cons, if_neg (by rwa [decide_eq_true_eq])] at honly
      rw [after_of_skips (skips_fieldOr.2 heq)]
      exact ih honly

/-- Two groups of fields without a common name. -/
theorem seq {f : Shape (α → β)} {x : Shape α} {g : α → β} {a : α} (hf : f.Reads members g)
    (hx : x.Reads members a) (hapart : ∀ name, f.Skips name ∨ x.Skips name) :
    (f <*> x).Reads members (g a) := by
  obtain ⟨d, hd, hg⟩ := hf
  obtain ⟨e, he, ha⟩ := hx
  refine ⟨both d e, takeAll_both hapart hd he, ?_⟩
  show (do
    let g ← f.finish d
    g <$> x.finish e) = _
  rw [hg, ha]
  rfl

/-- One more field, of another name than the fields before it. -/
theorem next {f : Shape (α → β)} {g : α → β} {name : String} {value : Source → Result α}
    {absent : Defect → Result α} {a : α} (hf : f.Reads members g) (hskip : f.Skips name)
    (hx : (Shape.fieldOr name value absent).Reads members a) :
    (f <*> Shape.fieldOr name value absent).Reads members (g a) := by
  refine hf.seq hx fun other => ?_
  by_cases heq : other = name
  · exact .inl (heq ▸ hskip)
  · exact .inr (skips_fieldOr.2 heq)

/-- One more field, which stands among the members. -/
theorem withField {f : Shape (α → β)} {g : α → β} {name : String} {value : Source → Result α}
    {json : Json} {a : α} (hf : f.Reads members g) (hskip : f.Skips name)
    (honly : Only members name json) (hvalue : value (.ofJson json) = .ok a) :
    (f <*> .field name value).Reads members (g a) :=
  hf.next hskip (.fieldOr honly hvalue)

/-- One more field, which stands among the members although it may be left out. -/
theorem withOptional {f : Shape (α → β)} {g : α → β} {name : String} {value : Source → Result α}
    {json : Json} {a : α} (hf : f.Reads members g) (default : α) (hskip : f.Skips name)
    (honly : Only members name json) (hvalue : value (.ofJson json) = .ok a) :
    (f <*> .optional name value default).Reads members (g a) :=
  hf.next hskip (.fieldOr honly hvalue)

/-- A record is read from its object. -/
theorem read {s : Shape α} {a : α} (h : s.Reads members a) (title : String) (origin : Origin) :
    s.read title origin (.object (Source.ofMembers members)) = .ok a := by
  obtain ⟨draft, hdraft, hfinish⟩ := h
  show (do
    let draft ← s.takeAll s.blank (Source.ofMembers members)
    s.finish draft) = _
  rw [hdraft]
  exact hfinish

end Reads
end Shape
end Json
end ApparatusGraph
