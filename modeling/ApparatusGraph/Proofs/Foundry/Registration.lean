/-
# Registers of apparatus

Registration takes apparatus one after the other and stops at the first whose name is taken
(`Foundry.addAll_eq_error_iff`).  When it does not stop, the entries of the foundry are what was
given, each under its own name (`Foundry.values_of_register`); all that a foundry answers is
read off these entries:

| answer | of the entries |
| --- | --- |
| `lookup`, `processor?`, `switcher?` | the one of a name |
| `size` | how many there are |
| `names` | the names, in increasing order |
| `manifest` | the signatures, in the order of the names |

A map is known by its entries, so the order in which apparatus are given does not matter
(`Foundry.register_of_perm`).
-/

import ApparatusGraph.Proofs.FirstAt
import ApparatusGraph.Proofs.Foundry.Building
import ApparatusGraph.Proofs.Registers

namespace ApparatusGraph

variable {σ : Type}

/-- A signature has outputs on the sides of its kind, and on no others. -/
structure Signature.Sided (s : Signature) : Prop where
  output : s.output.isSome = true ↔ s.kind = .processor
  whenTrue : s.whenTrue.isSome = true ↔ s.kind = .switcher
  whenFalse : s.whenFalse.isSome = true ↔ s.kind = .switcher

/-- A signature has outputs on the sides of its kind alone. -/
theorem Apparatus.sided_signature (x : Apparatus σ) : x.signature.Sided := by
  cases x with
  | processor p => exact ⟨by simp [signature], by simp [signature], by simp [signature]⟩
  | switcher w => exact ⟨by simp [signature], by simp [signature], by simp [signature]⟩

/-- A signature has the name of its apparatus. -/
@[simp]
theorem Apparatus.signature_name (x : Apparatus σ) : x.signature.name = x.name := by
  cases x <;> rfl

namespace Foundry

/-! ## Names that are taken -/

/-- What a foundry is given, processors before switchers. -/
def given (processors : List (Processor σ)) (switchers : List (Switcher σ)) :
    List (Apparatus σ) :=
  processors.map .processor ++ switchers.map .switcher

/-- The apparatus of a position has the name of one before it. -/
def Repeats (l : List (Apparatus σ)) (k : Nat) (x : Apparatus σ) : Prop :=
  ∃ j y, j < k ∧ l[j]? = some y ∧ y.name = x.name

/-- The apparatus of a position has a name that is taken before. -/
def Taken (f : Foundry σ) (l : List (Apparatus σ)) (k : Nat) (x : Apparatus σ) : Prop :=
  f.get? x.name ≠ none ∨ Repeats l k x

variable {f g : Foundry σ} {x y : Apparatus σ} {l : List (Apparatus σ)}

/-- Nothing comes before the head of a list, so its name repeats none. -/
theorem not_repeats_zero : ¬Repeats l 0 x := fun ⟨_, _, hj, _⟩ => Nat.not_lt_zero _ hj

/-- The name at the head of a list is taken if the foundry has it. -/
theorem taken_zero : Taken f l 0 x ↔ f.get? x.name ≠ none := or_iff_left not_repeats_zero

/-- Without a foundry, names are taken by the list alone. -/
theorem taken_empty : Taken (∅ : Foundry σ) l = Repeats l := by
  funext k x
  exact propext (or_iff_right fun h => h rfl)

/-- Past the head of a list, its name is taken by the foundry that it was added to. -/
theorem taken_cons (h : f.add y = .ok g) (rest : List (Apparatus σ)) :
    (fun k => Taken f (y :: rest) (k + 1)) = Taken g rest := by
  funext k x
  refine propext ?_
  unfold Taken
  rw [(add_eq_ok h).2]
  constructor
  · rintro (hf | ⟨j, z, hj, hz, hname⟩)
    · refine .inl ?_
      split
      · exact Option.some_ne_none _
      · exact hf
    · cases j with
      | zero =>
        obtain rfl := Option.some.inj hz
        exact .inl (by rw [if_pos hname.symm]; exact Option.some_ne_none _)
      | succ j => exact .inr ⟨j, z, Nat.lt_of_succ_lt_succ hj, hz, hname⟩
  · rintro (hg | ⟨j, z, hj, hz, hname⟩)
    · split at hg
      · rename_i heq
        exact .inr ⟨0, y, Nat.succ_pos k, rfl, heq.symm⟩
      · exact .inl hg
    · exact .inr ⟨j + 1, z, Nat.succ_lt_succ hj, hz, hname⟩

/-- A name that is taken is the only reason why an apparatus is not added. -/
theorem add_of_taken (h : f.get? x.name ≠ none) : f.add x = .error (.duplicateName x.name) := by
  unfold add
  rw [x.named, if_neg Bool.false_ne_true]
  exact if_pos (Option.isSome_iff_ne_none.2 h)

/-- **Adding stops at the first name that is taken.** -/
theorem addAll_eq_error_iff {cause : RegistryError} : f.addAll l = .error cause ↔
    ∃ k x, FirstAt (Taken f l) l k x ∧ cause = .duplicateName x.name := by
  induction l generalizing f with
  | nil => exact ⟨nofun, fun ⟨_, _, h, _⟩ => absurd h FirstAt.not_nil⟩
  | cons y rest ih =>
    unfold addAll
    by_cases hfree : f.get? y.name = none
    · obtain ⟨g, hadd⟩ := exists_add hfree
      rw [FirstAt.exists_cons_of_not (fun h => taken_zero.1 h hfree), taken_cons hadd, hadd]
      exact ih
    · rw [FirstAt.exists_cons_of (taken_zero.2 hfree), add_of_taken hfree]
      exact ⟨fun h => (Except.error.inj h).symm, fun h => h ▸ rfl⟩

/-- What could be added has distinct names, none of which was taken. -/
theorem distinct_of_addAll (h : f.addAll l = .ok g) :
    (l.map Apparatus.name).Nodup ∧ ∀ x ∈ l, f.get? x.name = none := by
  induction l generalizing f with
  | nil => exact ⟨List.nodup_nil, fun _ hx => absurd hx List.not_mem_nil⟩
  | cons y rest ih =>
    obtain ⟨mid, hadd, hrest⟩ := bind_eq_ok.1 h
    obtain ⟨hfree, hmid⟩ := add_eq_ok hadd
    obtain ⟨hdistinct, hrestFree⟩ := ih hrest
    have hfresh : ∀ x ∈ rest, x.name ≠ y.name ∧ f.get? x.name = none := by
      intro x hx
      have hnone := hrestFree x hx
      rw [hmid] at hnone
      split at hnone
      · cases hnone
      · exact ⟨‹_›, hnone⟩
    rw [List.map_cons, List.nodup_cons, List.mem_map]
    refine ⟨⟨?_, hdistinct⟩, ?_⟩
    · rintro ⟨x, hx, hname⟩
      exact (hfresh x hx).1 hname
    · exact List.forall_mem_cons.2 ⟨hfree, fun x hx => (hfresh x hx).2⟩

variable {processors processors' : List (Processor σ)} {switchers switchers' : List (Switcher σ)}

/-- What is given has the names of the processors and those of the switchers. -/
theorem map_name_given : (given processors switchers).map Apparatus.name =
    processors.map (·.name) ++ switchers.map (·.name) := by
  unfold given
  rw [List.map_append, List.map_map, List.map_map]
  rfl

/-- **Registration succeeds exactly on distinct names.** -/
theorem exists_register_iff : (∃ f, register processors switchers = .ok f) ↔
    ((given processors switchers).map Apparatus.name).Nodup := by
  refine ⟨fun ⟨f, hf⟩ => (distinct_of_addAll hf).1, fun h => ?_⟩
  rw [map_name_given] at h
  exact exists_register h

/-- **Registration reports the first repeated name.** -/
theorem register_eq_error_iff {cause : RegistryError} :
    register processors switchers = .error cause ↔
      ∃ k x, FirstAt (Repeats (given processors switchers)) (given processors switchers) k x ∧
        cause = .duplicateName x.name := by
  rw [← taken_empty]
  exact addAll_eq_error_iff

/-- No registration fails for want of a name. -/
theorem register_ne_missingName : register processors switchers ≠ .error .missingName := by
  intro h
  obtain ⟨k, x, -, hcause⟩ := register_eq_error_iff.1 h
  cases hcause

/-! ## Entries -/

/-- The processors that are given are those of the first list. -/
@[simp]
theorem processor_mem_given {p : Processor σ} :
    .processor p ∈ given processors switchers ↔ p ∈ processors := by
  simp [given]

/-- The switchers that are given are those of the second list. -/
@[simp]
theorem switcher_mem_given {w : Switcher σ} :
    .switcher w ∈ given processors switchers ↔ w ∈ switchers := by
  simp [given]

/-- The names of a foundry are those of its apparatus, in order. -/
theorem names_eq (f : Foundry σ) : f.names = f.apparatus.values.map Apparatus.name := by
  unfold names Named.names Named.values
  rw [List.map_map]
  exact List.map_congr_left fun e he => (f.named e he).symm

/-- The signatures of a manifest have the names of the foundry, in order. -/
theorem map_name_manifest (f : Foundry σ) : f.manifest.map (·.name) = f.names := by
  unfold manifest
  rw [List.map_map, names_eq]
  exact List.map_congr_left fun x _ => x.signature_name

/-- The apparatus of a foundry are those that it has under their own names. -/
theorem mem_values_iff : x ∈ f.apparatus.values ↔ f.get? x.name = some x := by
  refine Iff.trans ?_ Named.get?_eq_some_iff.symm
  unfold Named.values
  rw [List.mem_map]
  constructor
  · rintro ⟨⟨name, z⟩, he, rfl⟩
    obtain rfl : z.name = name := f.named _ he
    exact he
  · exact fun he => ⟨_, he, rfl⟩

/-- No apparatus is listed twice. -/
theorem nodup_values (f : Foundry σ) : f.apparatus.values.Nodup := by
  have hnames : (f.apparatus.values.map Apparatus.name).Nodup := by
    rw [← names_eq]
    exact f.apparatus.nodup_names
  exact hnames.of_map

/-- **The entries of a foundry are what it was given.** -/
theorem values_of_register (h : register processors switchers = .ok f) :
    f.apparatus.values.Perm (given processors switchers) := by
  have hgiven := (exists_register_iff.1 ⟨f, h⟩).of_map
  refine (List.perm_ext_iff_of_nodup f.nodup_values hgiven).2 fun x => ?_
  rw [mem_values_iff, get?_of_register h]
  exact and_iff_left rfl

/-- A foundry is known by what it has at each name. -/
theorem ext_get? (h : ∀ name, f.get? name = g.get? name) : f = g := by
  obtain ⟨apparatus, _⟩ := f
  obtain ⟨apparatus', _⟩ := g
  obtain rfl : apparatus = apparatus' := Named.ext_get? h
  rfl

/-- What is given in another order is the same up to order. -/
theorem given_perm (hprocessors : processors'.Perm processors)
    (hswitchers : switchers'.Perm switchers) :
    (given processors' switchers').Perm (given processors switchers) :=
  (hprocessors.map _).append (hswitchers.map _)

/-- **The order in which apparatus are given does not matter.** -/
theorem register_of_perm (hprocessors : processors'.Perm processors)
    (hswitchers : switchers'.Perm switchers) (h : register processors switchers = .ok f) :
    register processors' switchers' = .ok f := by
  have hgiven := given_perm hprocessors hswitchers
  have hdistinct := (hgiven.map Apparatus.name).nodup_iff.2 (exists_register_iff.1 ⟨f, h⟩)
  obtain ⟨g, hg⟩ := exists_register_iff.2 hdistinct
  obtain rfl : g = f := by
    refine ext_get? fun name => Option.ext fun x => ?_
    rw [get?_of_register hg, get?_of_register h]
    exact and_congr_left fun _ => hgiven.mem_iff
  exact hg

/-! ## Answers -/

/-- A look-up gives what the foundry has under the name. -/
theorem lookup_eq_ok_iff {name : String} : f.lookup name = .ok x ↔ f.get? name = some x := by
  unfold lookup
  cases f.get? name with
  | none => exact ⟨nofun, nofun⟩
  | some found =>
    exact ⟨fun h => congrArg some (Except.ok.inj h), fun h => congrArg _ (Option.some.inj h)⟩

/-- A look-up fails where the foundry has nothing under the name, and says which name. -/
theorem lookup_eq_error_iff {name : String} {cause : RegistryError} :
    f.lookup name = .error cause ↔ f.get? name = none ∧ cause = .notFound name := by
  unfold lookup
  cases f.get? name with
  | none => exact ⟨fun h => ⟨rfl, (Except.error.inj h).symm⟩, fun h => h.2 ▸ rfl⟩
  | some found => exact ⟨nofun, fun h => nomatch h.1⟩

/-- **Registration is faithful.**  It succeeds exactly when the names of what is given are distinct,
and otherwise reports the first that repeats an earlier one.  The foundry then has each apparatus
under its own name and nothing else, its names increase, and its manifest has the signature of each
apparatus once, in the order of the names and with outputs on the sides of its kind.  In whatever
order processors and switchers are given, the foundry is the same. -/
theorem register_faithful (processors : List (Processor σ)) (switchers : List (Switcher σ)) :
    let l := given processors switchers
    ((∃ f, register processors switchers = .ok f) ↔ (l.map Apparatus.name).Nodup) ∧
    (∀ cause, register processors switchers = .error cause ↔
      ∃ k x, FirstAt (Repeats l) l k x ∧ cause = .duplicateName x.name) ∧
    ∀ f, register processors switchers = .ok f →
      (∀ name x, f.lookup name = .ok x ↔ x ∈ l ∧ x.name = name) ∧
      (∀ name cause, f.lookup name = .error cause ↔
        name ∉ l.map Apparatus.name ∧ cause = .notFound name) ∧
      (∀ name p, f.processor? name = some p ↔ p ∈ processors ∧ p.name = name) ∧
      (∀ name w, f.switcher? name = some w ↔ w ∈ switchers ∧ w.name = name) ∧
      f.size = processors.length + switchers.length ∧
      f.names.Pairwise (· < ·) ∧ f.names.Perm (l.map Apparatus.name) ∧
      f.manifest.map (·.name) = f.names ∧
      f.manifest.Perm (l.map Apparatus.signature) ∧ (∀ s ∈ f.manifest, s.Sided) ∧
      ∀ processors' switchers', processors'.Perm processors → switchers'.Perm switchers →
        register processors' switchers' = .ok f := by
  dsimp only
  refine ⟨exists_register_iff, fun cause => register_eq_error_iff, fun f hf => ?_⟩
  have hvalues := values_of_register hf
  refine ⟨fun name x => ?_, fun name cause => ?_, fun name p => ?_, fun name w => ?_, ?_,
    f.apparatus.increasing, ?_, f.map_name_manifest, hvalues.map _, fun s hs => ?_,
    fun processors' switchers' hprocessors hswitchers => ?_⟩
  · rw [lookup_eq_ok_iff, get?_of_register hf]
    rfl
  · rw [lookup_eq_error_iff, Option.eq_none_iff_forall_ne_some]
    refine and_congr_left fun _ => ?_
    simp only [ne_eq, get?_of_register hf, List.mem_map, not_exists]
    rfl
  · rw [processor?_eq_some, get?_of_register hf]
    exact and_congr_left fun _ => processor_mem_given
  · rw [switcher?_eq_some, get?_of_register hf]
    exact and_congr_left fun _ => switcher_mem_given
  · have hlength := hvalues.length_eq
    unfold Named.values given at hlength
    rw [List.length_map, List.length_append, List.length_map, List.length_map] at hlength
    exact hlength
  · rw [names_eq]
    exact hvalues.map _
  · obtain ⟨x, -, rfl⟩ := List.mem_map.1 hs
    exact x.sided_signature
  · exact register_of_perm hprocessors hswitchers hf

end Foundry
end ApparatusGraph
