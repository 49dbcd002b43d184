/-
# Foundries that match

Two foundries match on some names when each of these names is absent from both, or is that of
apparatus of one kind and with one callable whose contracts are related side by side
(`Foundry.Matches`).  Two relations between contracts are of interest:

| relation | meaning |
| --- | --- |
| `Contract.Alike` | the same vars may be absent |
| `Contract.Eases` | what may be absent under the first may be absent under the second |

Validation looks up the names that nodes reference and asks for the kind alone
(`Alignment.validate_of_kind`), so it finds the same fault in foundries that match on these names,
however their contracts are related (`Alignment.validate_of_matches`).
-/

import Mathlib.Data.List.Basic
import ApparatusGraph.Alignment.Validation

namespace ApparatusGraph

variable {σ τ : Type}

/-! ## Contracts -/

namespace Contract

/-- The same vars may be absent. -/
def Alike (c c' : Contract) : Prop := ∀ var, c'.allowsAbsent var = c.allowsAbsent var

/-- What may be absent under one contract may be absent under the other. -/
def Eases (c c' : Contract) : Prop := ∀ var, c.allowsAbsent var = true → c'.allowsAbsent var = true

theorem Eases.refl (c : Contract) : c.Eases c := fun _ => id

/-- Contracts that are alike ease each other. -/
theorem Alike.eases {c c' : Contract} (h : c.Alike c') : c.Eases c' := fun var hvar =>
  (h var).trans hvar

theorem Alike.symm {c c' : Contract} (h : c.Alike c') : c'.Alike c := fun var => (h var).symm

/-- A var that is declared may be absent if its type says so, and the others as before. -/
@[simp]
theorem allowsAbsent_insert (c : Contract) (var other : Var) (tag : TypeTag) :
    allowsAbsent (c.insert var tag) other =
      if other = var then tag.optional else c.allowsAbsent other := by
  unfold allowsAbsent
  rw [Named.get?_insert]
  by_cases heq : other = var
  · rw [if_pos heq, if_pos heq]
  · rw [if_neg heq, if_neg heq]

/-- A var that is declared to be optional, whether it was declared before or not. -/
theorem eases_insert (c : Contract) {var : Var} {tag : TypeTag} (htag : tag.optional = true) :
    c.Eases (c.insert var tag) := by
  intro other hother
  rw [allowsAbsent_insert]
  split
  · exact htag
  · exact hother

end Contract

/-! ## Foundries -/

/-- What two foundries have under one name: nothing, or apparatus of one kind and with one callable
whose contracts are related. -/
inductive Apparatus.Matches (R : Contract → Contract → Prop) :
    Option (Apparatus σ) → Option (Apparatus σ) → Prop where
  | absent : Matches R none none
  | processor {p p' : Processor σ} (process : p'.process = p.process) (input : R p.input p'.input)
      (output : R p.output p'.output) : Matches R (some (.processor p)) (some (.processor p'))
  | switcher {s s' : Switcher σ} (check : s'.check = s.check) (input : R s.input s'.input)
      (whenTrue : R s.whenTrue s'.whenTrue) (whenFalse : R s.whenFalse s'.whenFalse) :
      Matches R (some (.switcher s)) (some (.switcher s'))

/-- What matches is of one kind. -/
theorem Apparatus.Matches.map_kind {R : Contract → Contract → Prop} {x y : Option (Apparatus σ)}
    (h : Matches R x y) : y.map kind = x.map kind := by
  cases h <;> rfl

/-- Two foundries match on names. -/
def Foundry.Matches (R : Contract → Contract → Prop) (names : List String) (f g : Foundry σ) :
    Prop := ∀ name ∈ names, Apparatus.Matches R (f.get? name) (g.get? name)

/-! ## Validation -/

namespace Alignment

/-- Leaving out what was seen leaves out no name. -/
theorem mem_foldl_distinct {name : String} (names seen : List String) :
    name ∈ names.foldl (fun seen name => if name ∈ seen then seen else seen ++ [name]) seen ↔
      name ∈ seen ∨ name ∈ names := by
  induction names generalizing seen with
  | nil => simp
  | cons first rest ih =>
    rw [List.foldl_cons, ih]
    split
    · rename_i hfirst
      rw [List.mem_cons]
      constructor
      · rintro (hseen | hrest)
        · exact .inl hseen
        · exact .inr (.inr hrest)
      · rintro (hseen | rfl | hrest)
        · exact .inl hseen
        · exact .inl hfirst
        · exact .inr hrest
    · rw [List.mem_append, List.mem_singleton, List.mem_cons, or_assoc]

/-- **The referenced apparatus are those of the nodes.** -/
theorem mem_referencedApparatus {a : Alignment} {name : String} :
    name ∈ a.referencedApparatus ↔ ∃ n ∈ a.operations, n.apparatus? = some name := by
  unfold referencedApparatus
  rw [mem_foldl_distinct, List.mem_filterMap, or_iff_right List.not_mem_nil]

variable {R : Contract → Contract → Prop} {f g : Foundry σ}

/-- Foundries that match on what is referenced match on what a node references. -/
theorem matches_of_mem {a : Alignment} (h : f.Matches R a.referencedApparatus g) {n : Node}
    (hn : n ∈ a.operations) :
    ∀ name, n.apparatus? = some name → Apparatus.Matches R (f.get? name) (g.get? name) :=
  fun name hname => h name (mem_referencedApparatus.2 ⟨n, hn, hname⟩)

/-- The fault of a call depends on the kind of what is called. -/
theorem callFault?_of_kind {f : Foundry σ} {g : Foundry τ} {apparatus : String}
    (h : (g.get? apparatus).map Apparatus.kind = (f.get? apparatus).map Apparatus.kind)
    (node : String) (expected : ApparatusKind) :
    callFault? g node apparatus expected = callFault? f node apparatus expected := by
  unfold callFault?
  generalize f.get? apparatus = x at h ⊢
  generalize g.get? apparatus = y at h ⊢
  match x, y, h with
  | none, none, _ => rfl
  | some x, some y, h =>
    have hkind : y.kind = x.kind := Option.some.inj h
    dsimp only
    rw [hkind]

/-- The fault of a node depends on the kind of what it references. -/
theorem nodeFault?_of_kind {f : Foundry σ} {g : Foundry τ} {n : Node}
    (h : ∀ name, n.apparatus? = some name →
      (g.get? name).map Apparatus.kind = (f.get? name).map Apparatus.kind) :
    nodeFault? g n = nodeFault? f n := by
  cases n with
  | process p => exact callFault?_of_kind (h p.apparatus rfl) p.name .processor
  | switch s => exact callFault?_of_kind (h s.apparatus rfl) s.name .switcher
  | ingress i => rfl
  | egress e => rfl

/-- **Validation asks a foundry for the kinds of what is referenced,** and for nothing else. -/
theorem validate_of_kind {f : Foundry σ} {g : Foundry τ} {a : Alignment}
    (h : ∀ name ∈ a.referencedApparatus,
      (g.get? name).map Apparatus.kind = (f.get? name).map Apparatus.kind) :
    a.validate g = a.validate f := by
  have hnodes : a.operations.findSome? (nodeFault? g) = a.operations.findSome? (nodeFault? f) := by
    rw [← List.head?_filterMap, ← List.head?_filterMap]
    refine congrArg _ (List.filterMap_congr fun n hn => nodeFault?_of_kind fun name hname => ?_)
    exact h name (mem_referencedApparatus.2 ⟨n, hn, hname⟩)
  unfold validate fault?
  rw [hnodes]

/-- **Validation finds the same fault in foundries that match on what is referenced.** -/
theorem validate_of_matches {a : Alignment} (h : f.Matches R a.referencedApparatus g) :
    a.validate g = a.validate f :=
  validate_of_kind fun name hname => (h name hname).map_kind

end Alignment
end ApparatusGraph
