/-
# Presentation of objects

An object may be presented in many ways that say the same (`Json.Presents`):

| freedom | meaning |
| --- | --- |
| order | the members stand in any order, and so do those of a value that is an object |
| omission | a field that may be left out is left out at will where its value is empty |
| company | members of other names stand among the fields, nested to a bounded depth |

In whatever way an object is presented, each of its fields is found (`Presents.stands`): once, with
its value up to the order of the members of that value, or not at all, where it is empty and may be
left out.  A shape asks for no more than that (`Reads.required`, `Reads.omittable`).
-/

import ApparatusGraph.Proofs.Json.Reader

namespace ApparatusGraph
namespace Json

/-- An empty list or an empty object. -/
inductive Hollow : Json → Prop where
  | list : Hollow (.list [])
  | object : Hollow (.object [])

/-- The same value, the members of an object in any order. -/
inductive Reordered : Json → Json → Prop where
  | same (json : Json) : Reordered json json
  | object {members members' : List (String × Json)} (h : members'.Perm members) :
      Reordered (.object members) (.object members')

/-- Members in another order are nested as deep. -/
theorem Reordered.depth_eq {json json' : Json} (h : json.Reordered json') :
    json'.depth = json.depth := by
  cases h with
  | same => rfl
  | object h =>
    rw [depth, depth]
    induction h with
    | nil => rfl
    | cons member _ ih => simp only [membersDepth]; omega
    | swap member other rest => simp only [membersDepth]; omega
    | trans _ _ ih ih' => exact ih.trans ih'

/-- Which fields are given, and as what: one of the omissible names may be missing where its value
is empty. -/
inductive Given (omissible : List String) :
    List (String × Json) → List (String × Json) → Prop where
  | nil : Given omissible [] []
  | kept {name value value' fields given} (hvalue : Reordered value value')
      (h : Given omissible fields given) :
      Given omissible ((name, value) :: fields) ((name, value') :: given)
  | omitted {name value fields given} (hname : name ∈ omissible) (hvalue : Hollow value)
      (h : Given omissible fields given) : Given omissible ((name, value) :: fields) given

/-- The members of an object that presents fields: those that are given and any others that have
none of their names and are nested no deeper than `k`, in any order. -/
def Presents (k : Nat) (omissible : List String) (fields members : List (String × Json)) : Prop :=
  ∃ given extras, Given omissible fields given ∧ members.Perm (given ++ extras) ∧
    ∀ extra ∈ extras, extra.1 ∉ fields.map (·.1) ∧ extra.2.depth ≤ k

variable {k : Nat} {omissible : List String} {fields given members : List (String × Json)}

namespace Given

theorem refl (fields : List (String × Json)) : Given omissible fields fields := by
  induction fields with
  | nil => exact .nil
  | cons field rest ih => exact .kept (.same field.2) ih

/-- What is given of some of the names. -/
theorem filter (p : String → Bool) (h : Given omissible fields given) :
    Given omissible (fields.filter (p ·.1)) (given.filter (p ·.1)) := by
  induction h with
  | nil => exact .nil
  | @kept name value value' fields given hvalue _ ih =>
    rw [List.filter_cons, List.filter_cons]
    split
    · exact .kept hvalue ih
    · exact ih
  | @omitted name value fields given hname hvalue _ ih =>
    rw [List.filter_cons]
    split
    · exact .omitted hname hvalue ih
    · exact ih

/-- A member that is given is a field again. -/
theorem exists_field (h : Given omissible fields given) {member : String × Json}
    (hmember : member ∈ given) :
    ∃ value, (member.1, value) ∈ fields ∧ value.Reordered member.2 := by
  induction h with
  | nil => cases hmember
  | @kept name value value' fields given hvalue _ ih =>
    rcases List.mem_cons.1 hmember with rfl | hrest
    · exact ⟨value, List.mem_cons_self, hvalue⟩
    · obtain ⟨found, hfield, hfound⟩ := ih hrest
      exact ⟨found, List.mem_cons_of_mem _ hfield, hfound⟩
  | omitted _ _ _ ih =>
    obtain ⟨found, hfield, hfound⟩ := ih hmember
    exact ⟨found, List.mem_cons_of_mem _ hfield, hfound⟩

end Given

/-- How a field stands among members. -/
inductive Stands (omissible : List String) (members : List (String × Json)) (name : String)
    (value : Json) : Prop where
  | once {value'} (hvalue : value.Reordered value') (honly : Shape.Only members name value')
  | nowhere (hname : name ∈ omissible) (hvalue : value.Hollow)
      (habsent : ∀ member ∈ members, member.1 ≠ name)

namespace Presents

theorem refl (k : Nat) (omissible : List String) (fields : List (String × Json)) :
    Presents k omissible fields fields :=
  ⟨fields, [], .refl fields, (List.append_nil fields).symm ▸ .refl fields, fun _ => nofun⟩

/-- Members of some of the names present the fields of these names. -/
theorem filter (p : String → Bool) (h : Presents k omissible fields members) :
    Presents k omissible (fields.filter (p ·.1)) (members.filter (p ·.1)) := by
  obtain ⟨given, extras, hgiven, hperm, hextras⟩ := h
  refine ⟨given.filter (p ·.1), extras.filter (p ·.1), hgiven.filter p, ?_, ?_⟩
  · rw [← List.filter_append]
    exact hperm.filter _
  · intro extra hextra
    obtain ⟨hname, hdepth⟩ := hextras extra (List.mem_of_mem_filter hextra)
    refine ⟨fun hmem => hname ?_, hdepth⟩
    exact List.map_subset _ (List.filter_subset_self fields) hmem

/-- **Each field is found.** -/
theorem stands (h : Presents k omissible fields members) {name : String} {value : Json}
    (honly : Shape.Only fields name value) : Stands omissible members name value := by
  have hnamed := h.filter (fun other => decide (other = name))
  rw [show fields.filter (fun field => decide (field.1 = name)) = [(name, value)] from honly]
    at hnamed
  obtain ⟨given, extras, hgiven, hperm, hextras⟩ := hnamed
  -- What is found under the name is no extra.
  have hnone : extras = [] := by
    refine List.eq_nil_iff_forall_not_mem.2 fun extra hextra => (hextras extra hextra).1 ?_
    have hmem := hperm.mem_iff.2 (List.mem_append_right given hextra)
    exact List.mem_singleton.2 (of_decide_eq_true (List.mem_filter.1 hmem).2)
  rw [hnone, List.append_nil] at hperm
  cases hgiven with
  | kept hvalue hrest =>
    cases hrest
    exact .once hvalue (List.perm_singleton.1 hperm)
  | omitted hname hvalue hrest =>
    cases hrest
    refine .nowhere hname hvalue fun member hmember heq => ?_
    have hmem := hperm.mem_iff.1 (List.mem_filter.2 ⟨hmember, decide_eq_true heq⟩)
    cases hmem

/-- Members are nested no deeper than the fields or the extras. -/
theorem depth_le (h : Presents k omissible fields members) {j : Nat}
    (hfields : ∀ field ∈ fields, field.2.depth ≤ j) :
    ∀ member ∈ members, member.2.depth ≤ max j k := by
  intro member hmember
  obtain ⟨given, extras, hgiven, hperm, hextras⟩ := h
  rcases List.mem_append.1 (hperm.mem_iff.1 hmember) with hmem | hmem
  · obtain ⟨value, hfield, hvalue⟩ := hgiven.exists_field hmem
    have hdepth := hfields _ hfield
    rw [hvalue.depth_eq]
    exact Nat.le_trans hdepth (Nat.le_max_left j k)
  · exact Nat.le_trans (hextras member hmem).2 (Nat.le_max_right j k)

end Presents

/-! ## Reading what is presented -/

/-- A string is read in whatever way it is presented. -/
theorem readText_of_reordered {s : String} {json : Json} (h : (Json.text s).Reordered json) :
    readText (.ofJson json) = .ok s := by
  cases h
  exact readText_ofJson s

namespace Shape.Reads

variable {α β : Type} {f : Shape (α → β)} {g : α → β} {name : String} {value : Source → Result α}
  {json : Json} {a : α}

/-- A field that is left out has its default. -/
theorem absent (habsent : ∀ member ∈ members, member.1 ≠ name) (default : α) :
    (optional name value default).Reads members default := by
  refine ⟨none, takeAll_of_skips (fun member hmember => ?_) _, rfl⟩
  exact skips_optional.2 (habsent member hmember)

/-- One more field, which may not be left out. -/
theorem required (hf : f.Reads members g) (hskip : f.Skips name)
    (hstands : Stands omissible members name json) (hname : name ∉ omissible)
    (hvalue : ∀ {json'}, json.Reordered json' → value (.ofJson json') = .ok a) :
    (f <*> .field name value).Reads members (g a) := by
  cases hstands with
  | once hreordered honly => exact hf.withField hskip honly (hvalue hreordered)
  | nowhere hmem => exact absurd hmem hname

/-- One more field, which may be left out where it is empty. -/
theorem omittable (hf : f.Reads members g) (hskip : f.Skips name)
    (hstands : Stands omissible members name json)
    (hvalue : ∀ {json'}, json.Reordered json' → value (.ofJson json') = .ok a) {default : α}
    (hdefault : json.Hollow → a = default) :
    (f <*> .optional name value default).Reads members (g a) := by
  cases hstands with
  | once hreordered honly => exact hf.withOptional default hskip honly (hvalue hreordered)
  | nowhere _ hhollow habsent =>
    obtain rfl := hdefault hhollow
    exact hf.next hskip (.absent habsent a)

end Shape.Reads
end Json
end ApparatusGraph
