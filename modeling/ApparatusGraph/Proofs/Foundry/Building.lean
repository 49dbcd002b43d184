/-
# What is built and what is registered

A draft becomes an apparatus of the parts that it has, and of no others
(`Draft.toProcessor_eq_ok`, `Draft.toSwitcher_eq_ok`).  A foundry that was registered has an
apparatus at a name when it was given one of that name (`Foundry.get?_of_register`), and
apparatus of distinct names can be registered (`Foundry.exists_register`).
-/

import ApparatusGraph.Foundry.Draft

namespace ApparatusGraph

variable {σ κ : Type}

/-- What is computed in two parts is there when both are. -/
theorem bind_eq_ok {ε α β : Type} {x : Except ε α} {f : α → Except ε β} {b : β} :
    x >>= f = .ok b ↔ ∃ a, x = .ok a ∧ f a = .ok b := by
  constructor
  · intro h
    cases x with
    | error e => cases h
    | ok a => exact ⟨a, rfl, h⟩
  · rintro ⟨a, rfl, h⟩
    exact h

/-! ## Drafts -/

namespace Draft

/-- A draft has a contract for a side, and no var of it is blank. -/
def Declares (d : Draft κ) (side : Side) (c : Contract) : Prop :=
  d.contract? side = some c ∧ c.names.any Text.isBlankText = false

/-- A name that is required is the one that was set. -/
theorem requireName_eq_ok {d : Draft κ} {n : { s : String // Text.isBlankText s = false }} :
    d.requireName = .ok n ↔ d.name? = some n.1 := by
  obtain ⟨name, named⟩ := n
  unfold requireName
  cases d.name? with
  | none => exact ⟨fun h => (by cases h), fun h => (by cases h)⟩
  | some s =>
    dsimp only
    constructor
    · intro h
      split at h
      · cases h
        rfl
      · cases h
    · rintro ⟨⟩
      rw [dif_pos named]

/-- A contract that is required is the one that the draft declares. -/
theorem requireContract_eq_ok {d : Draft κ} {name : String} {side : Side} {c : Contract} :
    d.requireContract name side = .ok c ↔ d.Declares side c := by
  unfold requireContract Declares
  cases d.contract? side with
  | none => exact ⟨fun h => (by cases h), fun h => (by cases h.1)⟩
  | some own =>
    dsimp only
    constructor
    · intro h
      split at h
      · cases h
      · rename_i hvars
        cases h
        exact ⟨rfl, Bool.eq_false_iff.2 hvars⟩
    · rintro ⟨⟨⟩, hvars⟩
      rw [hvars]
      rfl

/-- A callable that is required is the one that was set. -/
theorem requireCallable_eq_ok {d : Draft κ} {name : String} {f : κ} :
    d.requireCallable name = .ok f ↔ d.callable? = some f := by
  unfold requireCallable
  cases d.callable? with
  | none => exact ⟨fun h => (by cases h), fun h => (by cases h)⟩
  | some own =>
    constructor
    · rintro ⟨⟩
      rfl
    · rintro ⟨⟩
      rfl

/-- **A draft becomes the processor of its parts.** -/
theorem toProcessor_eq_ok {d : Draft (Record → Call σ Record)} {p : Processor σ} :
    d.toProcessor = .ok p ↔ d.name? = some p.name ∧ d.description = p.description ∧
      d.Declares .input p.input ∧ d.Declares .output p.output ∧ d.callable? = some p.process := by
  unfold toProcessor
  constructor
  · intro h
    obtain ⟨⟨name, named⟩, hname, h⟩ := bind_eq_ok.1 h
    obtain ⟨input, hinput, h⟩ := bind_eq_ok.1 h
    obtain ⟨output, houtput, h⟩ := bind_eq_ok.1 h
    obtain ⟨process, hprocess, h⟩ := bind_eq_ok.1 h
    cases h
    exact ⟨requireName_eq_ok.1 hname, rfl, requireContract_eq_ok.1 hinput,
      requireContract_eq_ok.1 houtput, requireCallable_eq_ok.1 hprocess⟩
  · rintro ⟨hname, hdescription, hinput, houtput, hprocess⟩
    refine bind_eq_ok.2 ⟨⟨p.name, p.named⟩, requireName_eq_ok.2 hname, ?_⟩
    refine bind_eq_ok.2 ⟨p.input, requireContract_eq_ok.2 hinput, ?_⟩
    refine bind_eq_ok.2 ⟨p.output, requireContract_eq_ok.2 houtput, ?_⟩
    refine bind_eq_ok.2 ⟨p.process, requireCallable_eq_ok.2 hprocess, ?_⟩
    rw [hdescription]

/-- **A draft becomes the switcher of its parts.** -/
theorem toSwitcher_eq_ok {d : Draft (Record → Call σ (Bool × Record))} {w : Switcher σ} :
    d.toSwitcher = .ok w ↔ d.name? = some w.name ∧ d.description = w.description ∧
      d.Declares .input w.input ∧ d.Declares .whenTrue w.whenTrue ∧
      d.Declares .whenFalse w.whenFalse ∧ d.callable? = some w.check := by
  unfold toSwitcher
  constructor
  · intro h
    obtain ⟨⟨name, named⟩, hname, h⟩ := bind_eq_ok.1 h
    obtain ⟨input, hinput, h⟩ := bind_eq_ok.1 h
    obtain ⟨whenTrue, htrue, h⟩ := bind_eq_ok.1 h
    obtain ⟨whenFalse, hfalse, h⟩ := bind_eq_ok.1 h
    obtain ⟨check, hcheck, h⟩ := bind_eq_ok.1 h
    cases h
    exact ⟨requireName_eq_ok.1 hname, rfl, requireContract_eq_ok.1 hinput,
      requireContract_eq_ok.1 htrue, requireContract_eq_ok.1 hfalse,
      requireCallable_eq_ok.1 hcheck⟩
  · rintro ⟨hname, hdescription, hinput, htrue, hfalse, hcheck⟩
    refine bind_eq_ok.2 ⟨⟨w.name, w.named⟩, requireName_eq_ok.2 hname, ?_⟩
    refine bind_eq_ok.2 ⟨w.input, requireContract_eq_ok.2 hinput, ?_⟩
    refine bind_eq_ok.2 ⟨w.whenTrue, requireContract_eq_ok.2 htrue, ?_⟩
    refine bind_eq_ok.2 ⟨w.whenFalse, requireContract_eq_ok.2 hfalse, ?_⟩
    refine bind_eq_ok.2 ⟨w.check, requireCallable_eq_ok.2 hcheck, ?_⟩
    rw [hdescription]

/-- A draft with all its parts becomes a processor. -/
theorem exists_processor {d : Draft (Record → Call σ Record)} {name : String}
    {input output : Contract} {process : Record → Call σ Record}
    (named : Text.isBlankText name = false) (hname : d.name? = some name)
    (hinput : d.Declares .input input) (houtput : d.Declares .output output)
    (hprocess : d.callable? = some process) : ∃ p, d.toProcessor = .ok p :=
  ⟨⟨name, d.description, input, output, process, named⟩,
    toProcessor_eq_ok.2 ⟨hname, rfl, hinput, houtput, hprocess⟩⟩

/-- A draft with all its parts becomes a switcher. -/
theorem exists_switcher {d : Draft (Record → Call σ (Bool × Record))} {name : String}
    {input whenTrue whenFalse : Contract} {check : Record → Call σ (Bool × Record)}
    (named : Text.isBlankText name = false) (hname : d.name? = some name)
    (hinput : d.Declares .input input) (htrue : d.Declares .whenTrue whenTrue)
    (hfalse : d.Declares .whenFalse whenFalse) (hcheck : d.callable? = some check) :
    ∃ w, d.toSwitcher = .ok w :=
  ⟨⟨name, d.description, input, whenTrue, whenFalse, check, named⟩,
    toSwitcher_eq_ok.2 ⟨hname, rfl, hinput, htrue, hfalse, hcheck⟩⟩

end Draft

/-! ## Foundries -/

namespace Foundry

variable {f g : Foundry σ} {x : Apparatus σ} {name : String} {l : List (Apparatus σ)}

/-- A processor is found under a name when the foundry has it there. -/
theorem processor?_eq_some {p : Processor σ} :
    f.processor? name = some p ↔ f.get? name = some (.processor p) := by
  unfold processor?
  cases f.get? name with
  | none => simp
  | some found => cases found <;> simp

/-- A switcher is found under a name when the foundry has it there. -/
theorem switcher?_eq_some {w : Switcher σ} :
    f.switcher? name = some w ↔ f.get? name = some (.switcher w) := by
  unfold switcher?
  cases f.get? name with
  | none => simp
  | some found => cases found <;> simp

/-- **No apparatus is refused for want of a name.** -/
theorem add_ne_missingName (f : Foundry σ) (x : Apparatus σ) : f.add x ≠ .error .missingName := by
  intro h
  unfold add at h
  rw [x.named, if_neg Bool.false_ne_true] at h
  split at h <;> cases h

/-- What was added had a free name, and is found there and nowhere else. -/
theorem add_eq_ok (h : f.add x = .ok g) :
    f.get? x.name = none ∧ ∀ name, g.get? name = if name = x.name then some x else f.get? name := by
  unfold add at h
  rw [x.named, if_neg Bool.false_ne_true] at h
  split at h
  · cases h
  · rename_i hfree
    cases h
    refine ⟨?_, fun name => Named.get?_insert _ _ _ _⟩
    exact Option.not_isSome_iff_eq_none.1 hfree

/-- An apparatus with a free name can be added. -/
theorem exists_add (h : f.get? x.name = none) : ∃ g, f.add x = .ok g := by
  unfold add
  rw [x.named, if_neg Bool.false_ne_true]
  split
  · rename_i hcontains
    unfold Named.contains at hcontains
    rw [show f.apparatus.get? x.name = none from h] at hcontains
    cases hcontains
  · exact ⟨_, rfl⟩

/-- What is added stands beside what was there. -/
theorem get?_of_addAll (h : f.addAll l = .ok g) :
    g.get? name = some x ↔ f.get? name = some x ∨ x ∈ l ∧ x.name = name := by
  induction l generalizing f with
  | nil =>
    cases h
    exact ⟨.inl, fun h => h.elim id fun h => absurd h.1 List.not_mem_nil⟩
  | cons y rest ih =>
    obtain ⟨mid, hadd, hrest⟩ := bind_eq_ok.1 h
    obtain ⟨hfree, hmid⟩ := add_eq_ok hadd
    rw [ih hrest, hmid, List.mem_cons]
    by_cases hname : name = y.name
    · subst hname
      rw [if_pos rfl, hfree, Option.some.injEq]
      constructor
      · rintro (rfl | ⟨hx, hxname⟩)
        · exact .inr ⟨.inl rfl, rfl⟩
        · exact .inr ⟨.inr hx, hxname⟩
      · rintro (hnone | ⟨rfl | hx, hxname⟩)
        · cases hnone
        · exact .inl rfl
        · exact .inr ⟨hx, hxname⟩
    · rw [if_neg hname]
      refine or_congr Iff.rfl (and_congr_left fun hxname => ?_)
      exact ⟨.inr, fun hx => hx.resolve_left fun heq => hname (heq ▸ hxname.symm)⟩

/-- Apparatus with free and distinct names can be added one after the other. -/
theorem exists_addAll (hfree : ∀ x ∈ l, f.get? x.name = none)
    (hdistinct : (l.map Apparatus.name).Nodup) : ∃ g, f.addAll l = .ok g := by
  induction l generalizing f with
  | nil => exact ⟨f, rfl⟩
  | cons y rest ih =>
    rw [List.map_cons, List.nodup_cons] at hdistinct
    obtain ⟨mid, hadd⟩ := exists_add (hfree y List.mem_cons_self)
    have hmid : ∀ x ∈ rest, mid.get? x.name = none := by
      intro x hx
      rw [(add_eq_ok hadd).2, if_neg]
      · exact hfree x (List.mem_cons_of_mem _ hx)
      · intro heq
        exact hdistinct.1 (heq ▸ List.mem_map_of_mem hx)
    obtain ⟨g, hrest⟩ := ih hmid hdistinct.2
    exact ⟨g, bind_eq_ok.2 ⟨mid, hadd, hrest⟩⟩

variable {processors : List (Processor σ)} {switchers : List (Switcher σ)}

/-- **A foundry has what it was given, under its own names.** -/
theorem get?_of_register (h : register processors switchers = .ok f) :
    f.get? name = some x ↔
      x ∈ processors.map Apparatus.processor ++ switchers.map Apparatus.switcher ∧
        x.name = name := by
  rw [get?_of_addAll h]
  exact ⟨fun h => h.resolve_left fun hempty => (by cases hempty), .inr⟩

/-- The names of a foundry are those of what it was given. -/
theorem contains_of_register (h : register processors switchers = .ok f) :
    f.contains name = true ↔ name ∈ processors.map (·.name) ++ switchers.map (·.name) := by
  have hnames : processors.map (·.name) ++ switchers.map (·.name) =
      (processors.map Apparatus.processor ++ switchers.map Apparatus.switcher).map
        Apparatus.name := by
    rw [List.map_append, List.map_map, List.map_map]
    rfl
  rw [hnames, List.mem_map]
  show (f.get? name).isSome = true ↔ _
  rw [Option.isSome_iff_exists]
  exact exists_congr fun x => get?_of_register h

/-- Apparatus of distinct names can be registered. -/
theorem exists_register
    (h : (processors.map (·.name) ++ switchers.map (·.name)).Nodup) :
    ∃ f, register processors switchers = .ok f := by
  refine exists_addAll (fun _ _ => rfl) ?_
  rw [List.map_append, List.map_map, List.map_map]
  exact h

end Foundry
end ApparatusGraph
