/-
# What a manifest tells

The text of a manifest tells the signatures of a foundry.  There is no double in it, so it is the
text of one JSON value alone; and no two contracts, no two signatures share a form
(`Contract.toJson_inj`, `Signature.toJson_inj`), although a signature leaves out the sides that its
kind does not have.

A signature is all of an apparatus but its callable.  So foundries with one manifest have, at each
name, apparatus that differ at most in their callables (`Apparatus.Resembles`), and validation,
which calls nothing, comes to the same over both (`Foundry.manifest_tells`).
-/

import ApparatusGraph.Proofs.Foundry.Matching
import ApparatusGraph.Proofs.Foundry.Registration
import ApparatusGraph.Proofs.Json.Compact
import ApparatusGraph.Proofs.Value.RoundTrip

namespace ApparatusGraph

variable {σ τ : Type}

/-! ## Forms -/

/-- Contracts with one JSON form are equal. -/
theorem Contract.toJson_inj : Function.Injective Contract.toJson :=
  Json.injective_of_read fun _ => Json.readMap_ofJson TypeTag.read_ofJson (.refl _)

/-- The JSON form of a contract has no float. -/
theorem Contract.floatFree_toJson (c : Contract) : c.toJson.FloatFree :=
  (Json.Plain.ofNamed (k := 1) TypeTag.plain_toJson c).free

/-- Kinds with one JSON form are equal. -/
theorem ApparatusKind.toJson_inj : Function.Injective ApparatusKind.toJson := by
  have hknown (k : ApparatusKind) : all.lookup k.display = some k := by cases k <;> rfl
  exact Json.injective_of_read fun k => Json.readVariant_ofJson (hknown k)

namespace Signature

/-- The sides of a signature are found under their names. -/
theorem lookup_members (s : Signature) :
    s.toJson.members.lookup "output" = s.output.map Contract.toJson ∧
      s.toJson.members.lookup "outputWhenTrue" = s.whenTrue.map Contract.toJson ∧
      s.toJson.members.lookup "outputWhenFalse" = s.whenFalse.map Contract.toJson := by
  obtain ⟨name, kind, description, input, output, whenTrue, whenFalse⟩ := s
  cases output <;> cases whenTrue <;> cases whenFalse <;> exact ⟨rfl, rfl, rfl⟩

/-- **Different signatures have different forms.** -/
theorem toJson_inj : Function.Injective toJson := by
  intro s s' h
  obtain ⟨houtput, htrue, hfalse⟩ := s.lookup_members
  obtain ⟨houtput', htrue', hfalse'⟩ := s'.lookup_members
  rw [h, houtput'] at houtput
  rw [h, htrue'] at htrue
  rw [h, hfalse'] at hfalse
  have hmembers := Json.object.inj h
  simp only [List.cons_append, List.cons.injEq, Prod.mk.injEq, true_and, Json.text.injEq]
    at hmembers
  obtain ⟨hname, hkind, hdescription, hinput, -⟩ := hmembers
  have hside := Option.map_injective Contract.toJson_inj
  exact (Signature.mk.injEq ..).mpr ⟨hname, ApparatusKind.toJson_inj hkind, hdescription,
    Contract.toJson_inj hinput, hside houtput.symm, hside htrue.symm, hside hfalse.symm⟩

/-- The JSON form of a signature has no float. -/
theorem floatFree_toJson (s : Signature) : s.toJson.FloatFree := by
  have hside (name : String) (c : Option Contract) :
      ∀ member ∈ contractMember name c, member.2.FloatFree := by
    intro member hmember
    cases c with
    | none => cases hmember
    | some c =>
      obtain rfl := List.mem_singleton.1 hmember
      exact c.floatFree_toJson
  refine Json.floatFree_object ?_
  simp only [List.forall_mem_append, List.forall_mem_cons]
  exact ⟨⟨⟨⟨trivial, trivial, trivial, s.input.floatFree_toJson, fun _ => nofun⟩, hside _ _⟩,
    hside _ _⟩, hside _ _⟩

end Signature

/-! ## Apparatus -/

/-- Two apparatus differ at most in their callables. -/
inductive Apparatus.Resembles : Apparatus σ → Apparatus τ → Prop where
  | processor {p : Processor σ} {q : Processor τ} (name : p.name = q.name)
      (description : p.description = q.description) (input : p.input = q.input)
      (output : p.output = q.output) : Resembles (.processor p) (.processor q)
  | switcher {w : Switcher σ} {v : Switcher τ} (name : w.name = v.name)
      (description : w.description = v.description) (input : w.input = v.input)
      (whenTrue : w.whenTrue = v.whenTrue) (whenFalse : w.whenFalse = v.whenFalse) :
      Resembles (.switcher w) (.switcher v)

/-- **A signature is all of an apparatus but its callable.** -/
theorem Apparatus.resembles_of_signature {x : Apparatus σ} {y : Apparatus τ}
    (h : x.signature = y.signature) : x.Resembles y := by
  cases x with
  | processor p =>
    cases y with
    | processor q =>
      obtain ⟨hname, -, hdescription, hinput, houtput, -, -⟩ := (Signature.mk.injEq ..).mp h
      exact .processor hname hdescription hinput (Option.some.inj houtput)
    | switcher v => cases congrArg Signature.kind h
  | switcher w =>
    cases y with
    | processor q => cases congrArg Signature.kind h
    | switcher v =>
      obtain ⟨hname, -, hdescription, hinput, -, htrue, hfalse⟩ := (Signature.mk.injEq ..).mp h
      exact .switcher hname hdescription hinput (Option.some.inj htrue) (Option.some.inj hfalse)

/-- Apparatus with one signature resemble one another. -/
theorem Apparatus.rel_of_signature {x : Option (Apparatus σ)} {y : Option (Apparatus τ)}
    (h : x.map signature = y.map signature) : Option.Rel Resembles x y := by
  match x, y, h with
  | none, none, _ => exact .none
  | some x, some y, h => exact .some (resembles_of_signature (Option.some.inj h))

/-- Apparatus that resemble one another are of one kind. -/
theorem Apparatus.map_kind_of_rel {x : Option (Apparatus σ)} {y : Option (Apparatus τ)}
    (h : Option.Rel Resembles x y) : x.map kind = y.map kind := by
  cases h with
  | none => rfl
  | some h => cases h <;> rfl

/-! ## Foundries -/

namespace Foundry

variable {f : Foundry σ} {g : Foundry τ}

/-- The JSON form of a manifest has no float. -/
theorem floatFree_manifestJson (f : Foundry σ) : f.manifestJson.FloatFree := by
  refine Json.floatFree_list fun item hitem => ?_
  obtain ⟨s, -, rfl⟩ := List.mem_map.1 hitem
  exact s.floatFree_toJson

/-- Foundries with one JSON form of their manifests have one manifest. -/
theorem manifestJson_inj (h : f.manifestJson = g.manifestJson) : f.manifest = g.manifest :=
  List.map_injective_iff.2 Signature.toJson_inj (Json.list.inj h)

/-- Among entries under their own names, a name is found by the signatures alone. -/
theorem map_signature_lookup {entries : List (String × Apparatus σ)}
    (h : ∀ e ∈ entries, e.2.name = e.1) (name : String) :
    (entries.lookup name).map Apparatus.signature =
      ((entries.map (·.2)).map Apparatus.signature).find? (·.name == name) := by
  induction entries with
  | nil => rfl
  | cons e rest ih =>
    obtain ⟨first, x⟩ := e
    obtain ⟨hfirst, hrest⟩ := List.forall_mem_cons.1 h
    obtain rfl : x.name = first := hfirst
    rw [List.map_cons, List.map_cons, List.find?_cons, List.lookup_cons, x.signature_name]
    by_cases hname : name = x.name
    · subst hname
      rw [beq_self_eq_true]
      rfl
    · rw [beq_false_of_ne hname, beq_false_of_ne (Ne.symm hname)]
      exact ih hrest

/-- The signature of a name is found in the manifest. -/
theorem map_signature_get? (f : Foundry σ) (name : String) :
    (f.get? name).map Apparatus.signature = f.manifest.find? (·.name == name) :=
  map_signature_lookup f.named name

/-- **The manifest tells all that acceptance depends on.**  Foundries whose manifests have one text,
spread out or not, have the same names, and at each name apparatus of one kind, one description and
the same contracts, var by var and tag by tag.  So validation accepts the same alignments over both,
and finds the same fault in any other. -/
theorem manifest_tells (h : f.manifestJson.compact = g.manifestJson.compact ∨
      f.manifestJson.pretty = g.manifestJson.pretty) :
    f.names = g.names ∧
      (∀ name, Option.Rel Apparatus.Resembles (f.get? name) (g.get? name)) ∧
      ∀ a : Alignment, a.validate f = a.validate g := by
  have hmanifest : f.manifest = g.manifest := by
    refine manifestJson_inj ?_
    rcases h with h | h
    · exact Json.compact_inj f.floatFree_manifestJson g.floatFree_manifestJson h
    · exact Json.pretty_inj f.floatFree_manifestJson g.floatFree_manifestJson h
  have hrel (name : String) : Option.Rel Apparatus.Resembles (f.get? name) (g.get? name) := by
    refine Apparatus.rel_of_signature ?_
    rw [map_signature_get?, map_signature_get?, hmanifest]
  refine ⟨?_, hrel, fun a => Alignment.validate_of_kind fun name _ => ?_⟩
  · rw [← map_name_manifest, ← map_name_manifest, hmanifest]
  · exact Apparatus.map_kind_of_rel (hrel name)

/-- A foundry with a switcher that decides the same at every call. -/
def coin (verdict : Bool) : Foundry Unit where
  apparatus := (∅ : Named (Apparatus Unit)).insert "coin" (.switcher {
    name := "coin"
    description := "decides \"at random\""
    input := ∅
    whenTrue := (∅ : Contract).insert "side" { name := "text", description := "which it was" }
    whenFalse := ∅
    check := fun input => .ok (verdict, input)
    named := by rfl })
  named := by
    intro e he
    obtain rfl | he := Named.mem_place he
    · rfl
    · cases he

/-- Coins that fall on different sides are planned for alike. -/
theorem manifest_tells_coin :
    (coin true).manifestJson.compact = (coin false).manifestJson.compact ∧
      (coin true).names = (coin false).names ∧
      Option.Rel Apparatus.Resembles ((coin true).get? "coin") ((coin false).get? "coin") ∧
      ∀ a : Alignment, a.validate (coin true) = a.validate (coin false) := by
  have htext : (coin true).manifestJson.compact = (coin false).manifestJson.compact := rfl
  obtain ⟨hnames, hrel, hvalid⟩ := manifest_tells (.inl htext)
  exact ⟨htext, hnames, hrel "coin", hvalid⟩

end Foundry
end ApparatusGraph
