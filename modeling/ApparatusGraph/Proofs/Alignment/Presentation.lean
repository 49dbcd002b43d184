/-
# Alignments in any presentation

An alignment is read from any text that presents it (`Alignment.ofText_of_presents`).  Free are:

- the white space between the tokens;
- the order of the members in every object, so that a node may have its kind anywhere;
- whether the fields named in `Node.omissible` are written where they are empty;
- members of other names, in the object of the alignment and in those of the nodes; a field of
  another kind of node is such a member.

Each of the four records is read from its members field by field (`Process.reads` and its like),
and a node first splits its kind from the other members (`Node.splitKind_of_only`), whose trees are
kept as they are.
-/

import ApparatusGraph.Alignment.Json
import ApparatusGraph.Proofs.Json.Presentation

namespace ApparatusGraph

open Json (Source Plain Origin readText_of_reordered)
open Json.Shape (Reads Only)

/-! ## Records -/

namespace Bindings

/-- Bindings are read from their JSON form with its members in any order. -/
theorem read_of_reordered {b : Bindings} {json : Json} (h : b.toJson.Reordered json) :
    read (.ofJson json) = .ok b := by
  have hperm : ∃ members, json = .object members ∧
      members.Perm (b.entries.map (Prod.map id .text)) := by
    cases h with
    | same => exact ⟨_, rfl, .refl _⟩
    | object h => exact ⟨_, rfl, h⟩
  obtain ⟨members, rfl, hmembers⟩ := hperm
  exact Json.readMap_ofJson Json.readText_ofJson hmembers

/-- Bindings may be left out only if there are none. -/
theorem eq_empty_of_hollow {b : Bindings} (h : b.toJson.Hollow) : b = ∅ := by
  obtain ⟨entries, increasing⟩ := b
  cases entries with
  | nil => rfl
  | cons entry rest => cases h

end Bindings

/-- Names in a list are read as they stand there. -/
theorem readNames_of_reordered {names : List String} {json : Json}
    (h : (Json.list (names.map .text)).Reordered json) :
    Json.readList Json.readText (.ofJson json) = .ok names := by
  cases h
  exact Json.readList_texts names

/-- A list of names may be left out only if there are none. -/
theorem names_eq_nil_of_hollow {names : List String} (h : (Json.list (names.map .text)).Hollow) :
    names = [] := by
  cases names with
  | nil => rfl
  | cons name rest => cases h

namespace Node

/-- The fields that may be left out where they are empty. -/
def omissible : List String :=
  ["fileAddrs", "inputs", "outputs", "outputsWhenTrue", "outputsWhenFalse", "result"]

end Node

section

variable {k : Nat} {members : List (String × Json)}

/-- An ingress is read from members that present it. -/
theorem Ingress.reads {i : Ingress} (h : Json.Presents k Node.omissible i.members members) :
    shape.Reads members i := by
  have hnext := (Reads.pure mk).required (by simp) (h.stands (rfl : Only i.members "next" _))
    (by decide) readText_of_reordered
  have hprompt := hnext.required (by simp) (h.stands (rfl : Only i.members "promptAddr" _))
    (by decide) readText_of_reordered
  exact hprompt.omittable (by simp) (h.stands (rfl : Only i.members "fileAddrs" _))
    readNames_of_reordered names_eq_nil_of_hollow

/-- A process is read from members that present it. -/
theorem Process.reads {p : Process} (h : Json.Presents k Node.omissible p.members members) :
    shape.Reads members p := by
  have hname := (Reads.pure mk).required (by simp) (h.stands (rfl : Only p.members "name" _))
    (by decide) readText_of_reordered
  have happaratus := hname.required (by simp) (h.stands (rfl : Only p.members "apparatus" _))
    (by decide) readText_of_reordered
  have hinputs := happaratus.omittable (by simp) (h.stands (rfl : Only p.members "inputs" _))
    Bindings.read_of_reordered Bindings.eq_empty_of_hollow
  have houtputs := hinputs.omittable (by simp) (h.stands (rfl : Only p.members "outputs" _))
    Bindings.read_of_reordered Bindings.eq_empty_of_hollow
  exact houtputs.required (by simp) (h.stands (rfl : Only p.members "next" _)) (by decide)
    readText_of_reordered

/-- A switch is read from members that present it. -/
theorem Switch.reads {s : Switch} (h : Json.Presents k Node.omissible s.members members) :
    shape.Reads members s := by
  have hname := (Reads.pure mk).required (by simp) (h.stands (rfl : Only s.members "name" _))
    (by decide) readText_of_reordered
  have happaratus := hname.required (by simp) (h.stands (rfl : Only s.members "apparatus" _))
    (by decide) readText_of_reordered
  have hinputs := happaratus.omittable (by simp) (h.stands (rfl : Only s.members "inputs" _))
    Bindings.read_of_reordered Bindings.eq_empty_of_hollow
  have htrue := hinputs.omittable (by simp)
    (h.stands (rfl : Only s.members "outputsWhenTrue" _)) Bindings.read_of_reordered
    Bindings.eq_empty_of_hollow
  have hfalse := htrue.omittable (by simp)
    (h.stands (rfl : Only s.members "outputsWhenFalse" _)) Bindings.read_of_reordered
    Bindings.eq_empty_of_hollow
  have hnextTrue := hfalse.required (by simp)
    (h.stands (rfl : Only s.members "nextWhenTrue" _)) (by decide) readText_of_reordered
  exact hnextTrue.required (by simp) (h.stands (rfl : Only s.members "nextWhenFalse" _))
    (by decide) readText_of_reordered

/-- An egress is read from members that present it. -/
theorem Egress.reads {e : Egress} (h : Json.Presents k Node.omissible e.members members) :
    shape.Reads members e := by
  have hname := (Reads.pure mk).required (by simp) (h.stands (rfl : Only e.members "name" _))
    (by decide) readText_of_reordered
  exact hname.omittable (by simp) (h.stands (rfl : Only e.members "result" _))
    Bindings.read_of_reordered Bindings.eq_empty_of_hollow

end

/-! ## Nodes -/

namespace Node

/-- The kind of a node. -/
def kind : Node → Kind
  | ingress _ => .ingress
  | process _ => .process
  | switch _ => .switch
  | egress _ => .egress

/-- The tag of a node is read as its kind. -/
theorem readVariantName_tag (n : Node) :
    Json.readVariantName kinds (.ofJson (.text n.tag)) = .ok n.kind := by
  cases n <;> rfl

/-- A member that is no kind is kept. -/
theorem splitKind_member (k : Option Kind) {name : String} (hname : name ≠ "kind") (value : Json)
    (rest : List (String × Json)) :
    splitKind k (Source.ofMembers ((name, value) :: rest)) =
      (fun split => (split.1, (some name, .ofJson value) :: split.2)) <$>
        splitKind k (Source.ofMembers rest) := by
  show (if name = "kind" then _ else if (Source.ofJson value).keepable then _ else _) = _
  rw [if_neg hname, if_pos (Source.keepable_ofJson value)]
  cases splitKind k (Source.ofMembers rest) <;> rfl

/-- Where no member is a kind, all are kept. -/
theorem splitKind_ofMembers (k : Option Kind) {members : List (String × Json)}
    (h : ∀ member ∈ members, member.1 ≠ "kind") :
    splitKind k (Source.ofMembers members) = .ok (k, Source.ofMembers members) := by
  induction members with
  | nil => rfl
  | cons member rest ih =>
    rw [splitKind_member k (h member List.mem_cons_self),
      ih fun other hother => h other (List.mem_cons_of_mem _ hother)]
    rfl

/-- **The kind is split from the members wherever it stands.** -/
theorem splitKind_of_only {n : Node} {members : List (String × Json)}
    (h : Only members "kind" (.text n.tag)) :
    splitKind none (Source.ofMembers members) =
      .ok (some n.kind, Source.ofMembers (members.filter (·.1 ≠ "kind"))) := by
  induction members with
  | nil => cases h
  | cons member rest ih =>
    obtain ⟨name, value⟩ := member
    unfold Only at h
    by_cases hname : name = "kind"
    · rw [List.filter_cons, if_pos (decide_eq_true hname), List.cons.injEq] at h
      obtain ⟨hmember, hnone⟩ := h
      cases hmember
      have hothers : ∀ member ∈ rest, member.1 ≠ "kind" := by
        intro member hmember heq
        exact List.filter_eq_nil_iff.1 hnone member hmember (decide_eq_true heq)
      rw [List.filter_cons, if_neg (by simp), List.filter_eq_self.2 (by simpa using hothers)]
      show (do
        let k ← Json.readVariantName kinds (.ofJson (.text n.tag))
        splitKind (some k) (Source.ofMembers rest)) = _
      rw [readVariantName_tag]
      exact splitKind_ofMembers (some n.kind) hothers
    · rw [List.filter_cons, if_neg (by simpa using hname)] at h
      rw [splitKind_member none hname, ih h, List.filter_cons, if_pos (by simpa using hname)]
      rfl

/-- No field of a node is named like its kind. -/
theorem name_ne_kind (n : Node) : ∀ member ∈ n.fields, member.1 ≠ "kind" := by
  cases n <;> simp [fields, Ingress.members, Process.members, Switch.members, Egress.members]

/-- The members of a node have one kind, that of the node. -/
theorem only_kind (n : Node) : Only n.members "kind" (.text n.tag) := by
  cases n <;> rfl

/-- Without its kind, the members of a node are its fields. -/
theorem filter_members (n : Node) : n.members.filter (·.1 ≠ "kind") = n.fields := by
  have hfields := n.name_ne_kind
  rw [members, List.filter_cons, if_neg (by simp), List.filter_eq_self.2 (by simpa using hfields)]

/-- The fields of a node are read from members that present them, once its kind is known. -/
theorem readFields_of_presents {k : Nat} (origin : Origin) {n : Node}
    {members : List (String × Json)} (h : Json.Presents k omissible n.fields members) :
    readFields origin n.kind (.object (Source.ofMembers members)) = .ok n := by
  cases n with
  | ingress i => exact congrArg (ingress <$> ·) ((Ingress.reads h).read "Ingress" origin)
  | process p => exact congrArg (process <$> ·) ((Process.reads h).read "Process" origin)
  | switch s => exact congrArg (switch <$> ·) ((Switch.reads h).read "Switch" origin)
  | egress e => exact congrArg (egress <$> ·) ((Egress.reads h).read "Egress" origin)

/-- The object presents the node: its kind and its fields, and members of other names nested no
deeper than `k`. -/
def Presents (k : Nat) (n : Node) (json : Json) : Prop :=
  ∃ members, json = .object members ∧ Json.Presents k omissible n.members members

/-- The JSON form of a node presents it. -/
theorem presents_toJson (k : Nat) (n : Node) : n.Presents k n.toJson :=
  ⟨n.members, rfl, .refl k omissible n.members⟩

/-- **A node is read from any object that presents it.** -/
theorem read_of_presents {k : Nat} {n : Node} {json : Json} (h : n.Presents k json) :
    read (.ofJson json) = .ok n := by
  obtain ⟨members, rfl, hmembers⟩ := h
  have hkind : Only members "kind" (.text n.tag) := by
    cases hmembers.stands n.only_kind with
    | once hvalue honly =>
      cases hvalue
      exact honly
    | nowhere _ hvalue => cases hvalue
  have hfields := hmembers.filter fun name => decide (name ≠ "kind")
  rw [n.filter_members] at hfields
  rw [Source.ofJson, read, splitKind_of_only hkind]
  exact readFields_of_presents .kept hfields

/-- The fields of a node are plain: texts, or one container of texts. -/
theorem plain_fields {k : Nat} (n : Node) : ∀ member ∈ n.fields, Plain (k + 1) member.2 := by
  have hbindings (b : Named Address) : Plain (k + 1) (.ofNamed .text b) := .ofNamed Plain.text b
  have htexts (names : List String) : Plain (k + 1) (.list (names.map .text)) := .texts names
  cases n <;>
    simp [fields, Ingress.members, Process.members, Switch.members, Egress.members,
      Bindings.toJson, Plain.text, hbindings, htexts]

/-- The members of a node are plain, its kind among them. -/
theorem plain_members {k : Nat} (n : Node) : ∀ member ∈ n.members, Plain (k + 1) member.2 :=
  List.forall_mem_cons.2 ⟨.text n.tag, n.plain_fields⟩

/-- An object that presents a node is nested little deeper than its extra members. -/
theorem Presents.depth_le {k : Nat} {n : Node} {json : Json} (h : n.Presents k json) :
    json.depth ≤ max 1 k + 1 := by
  obtain ⟨members, rfl, hmembers⟩ := h
  refine Json.depth_object_le (hmembers.depth_le fun member hmember => ?_)
  exact (n.plain_members (k := 0) member hmember).depth

/-- Objects that present nodes are nested little deeper than their extra members. -/
theorem depth_le_of_presents {k : Nat} {l : List Node} {nodes : List Json}
    (h : List.Forall₂ (Presents k) l nodes) : ∀ json ∈ nodes, json.depth ≤ max 1 k + 1 := by
  induction h with
  | nil => exact fun _ => nofun
  | cons hn _ ih => exact List.forall_mem_cons.2 ⟨hn.depth_le, ih⟩

end Node

/-! ## Alignments -/

namespace Alignment

/-- The object presents the alignment: its nodes, each presented, and members of other names, all of
them nested no deeper than `k` besides the fields. -/
def Presents (k : Nat) (a : Alignment) (json : Json) : Prop :=
  ∃ nodes members, List.Forall₂ (Node.Presents k) a.operations nodes ∧ json = .object members ∧
    Json.Presents k [] [("operations", .list nodes)] members

/-- The JSON form of an alignment presents it. -/
theorem presents_toJson (k : Nat) (a : Alignment) : a.Presents k a.toJson := by
  refine ⟨a.operations.map Node.toJson, _, ?_, rfl, .refl k [] _⟩
  exact List.forall₂_map_right_iff.2 (List.forall₂_same.2 fun n _ => n.presents_toJson k)

/-- An alignment is read from any object that presents it. -/
theorem read_of_presents {k : Nat} {a : Alignment} {json : Json} (h : a.Presents k json) :
    read (.ofJson json) = .ok a := by
  obtain ⟨nodes, members, hnodes, rfl, hmembers⟩ := h
  have hlist : ∀ {json'}, (Json.list nodes).Reordered json' →
      Json.readList Node.read (.ofJson json') = .ok a.operations := by
    intro json' hreordered
    cases hreordered
    exact Json.readList_ofJson (hnodes.imp fun _ _ => Node.read_of_presents)
  have hreads : shape.Reads members a :=
    (Reads.pure mk).required (by simp)
      (hmembers.stands (rfl : Only [("operations", Json.list nodes)] "operations" _)) nofun hlist
  exact hreads.read "Alignment" .direct

/-- An object that presents an alignment is nested little deeper than its extra members. -/
theorem Presents.depth_le {k : Nat} {a : Alignment} {json : Json} (h : a.Presents k json) :
    json.depth ≤ max 1 k + 3 := by
  obtain ⟨nodes, members, hnodes, rfl, hmembers⟩ := h
  have hlist : (Json.list nodes).depth ≤ max 1 k + 2 :=
    Json.depth_list_le (Node.depth_le_of_presents hnodes)
  have hdepth : ∀ member ∈ members, member.2.depth ≤ max (max 1 k + 2) k :=
    hmembers.depth_le (List.forall_mem_singleton.2 hlist)
  have hobject := Json.depth_object_le hdepth
  omega

/-- **An alignment is read from every text that presents it.**  White space between the tokens, the
order of the members, leaving out what is empty and members of other names make no difference, as
long as the other members are not nested too deep. -/
theorem ofText_of_presents {k : Nat} {a : Alignment} {json : Json} {t : String}
    (hk : k + 3 ≤ Json.maxDepth) (h : a.Presents k json) (ht : Json.Spaced json.marks t.toList) :
    ofText t = .ok a := by
  have hdepth : json.depth ≤ Json.maxDepth := by
    have hjson := h.depth_le
    unfold Json.maxDepth at hk ⊢
    omega
  exact (Json.readString_spaced read ht hdepth).trans (read_of_presents h)

/-- All members in reverse, with a version for the alignment, and inputs that are none but no files
for the ingress. -/
theorem ofText_backwards :
    let ingress := Json.object [("inputs", .null), ("promptAddr", .text "prompt"),
      ("next", .text "exit"), ("kind", .text "ingress")]
    let egress := Json.object [("result", .object [("b", .text "prompt"), ("a", .text "prompt")]),
      ("name", .text "exit"), ("kind", .text "egress")]
    let json := Json.object [("version", .bool true), ("operations", .list [ingress, egress])]
    let a : Alignment := ⟨[.ingress { next := "exit", promptAddr := "prompt", fileAddrs := [] },
      .egress { name := "exit", result := .ofList [("a", "prompt"), ("b", "prompt")] }]⟩
    a.Presents 100 json ∧ Json.Spaced json.marks json.pretty.toList ∧
      ofText json.pretty = .ok a := by
  intro ingress egress json a
  have hingress : Node.Presents 100 (.ingress ⟨"exit", "prompt", []⟩) ingress := by
    refine ⟨_, rfl, [("kind", .text "ingress"), ("next", .text "exit"),
      ("promptAddr", .text "prompt")], [("inputs", .null)], ?_, List.reverse_perm [_, _, _, _], ?_⟩
    · exact .kept (.same _) (.kept (.same _) (.kept (.same _) (.omitted (by decide) .list .nil)))
    · exact List.forall_mem_singleton.2 ⟨by decide, Nat.zero_le 100⟩
  have hegress : Node.Presents 100
      (.egress ⟨"exit", .ofList [("a", "prompt"), ("b", "prompt")]⟩) egress := by
    refine ⟨_, rfl, [("kind", .text "egress"), ("name", .text "exit"),
      ("result", .object [("b", .text "prompt"), ("a", .text "prompt")])], [], ?_,
      List.reverse_perm [_, _, _], fun _ => nofun⟩
    exact .kept (.same _) (.kept (.same _) (.kept (.object (.swap _ _ [])) .nil))
  have hjson : a.Presents 100 json := by
    refine ⟨[ingress, egress], _, .cons hingress (.cons hegress .nil), rfl,
      [("operations", .list [ingress, egress])], [("version", .bool true)], .refl _,
      .swap _ _ [], ?_⟩
    exact List.forall_mem_singleton.2 ⟨by decide, Nat.zero_le 100⟩
  have hspaced : Json.Spaced json.marks json.pretty.toList := by
    rw [Json.pretty, String.toList_ofList]
    exact Json.spaced_write Json.Layout.spread_blank json 0
      (by simp [json, ingress, egress, Json.FloatFree, Json.FloatFreeMembers, Json.FloatFreeItems])
  exact ⟨hjson, hspaced, ofText_of_presents (by decide) hjson hspaced⟩

end Alignment
end ApparatusGraph
