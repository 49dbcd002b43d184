/-
# Settings and what is built from them

An apparatus is built from a list of settings of any length, in which a part may be set many
times or not at all.  What the list asks for is said here without the draft that collects it:

* the name, the description and the callable are the last ones set (`lastOf`)
* the contract of a side is the last whole one set, or the empty one, with the vars that are set
  after it in place of its own (`Setting.Composes`)

`Setting.Meets` says what is required of a part and `Setting.Lacks` how it is reported that the
requirement is not met.  The required parts of a processor and of a switcher are listed in the
order in which they are looked at, and the first that is not met decides the error.

A setting changes one part and leaves the others (`Draft.Agrees.apply`), so settings of different
parts may change places.
-/

import ApparatusGraph.Proofs.FirstAt
import ApparatusGraph.Proofs.Foundry.Building

namespace ApparatusGraph

variable {α β σ κ : Type}

/-! ## The last answer on a list -/

/-- The last answer of a function on a list. -/
def lastOf (f : α → Option β) (l : List α) : Option β := (l.filterMap f).getLast?

/-- The last answer on a list is that on its rest, or that on its head. -/
theorem lastOf_cons (f : α → Option β) (x : α) (l : List α) :
    lastOf f (x :: l) = (lastOf f l).or (f x) := by
  unfold lastOf
  cases hx : f x with
  | none => rw [List.filterMap_cons_none hx, Option.or_none]
  | some b =>
    rw [List.filterMap_cons_some hx, List.getLast?_cons]
    cases (l.filterMap f).getLast? <;> rfl

/-- There is no last answer when there is none at all. -/
theorem lastOf_eq_none_iff {f : α → Option β} {l : List α} :
    lastOf f l = none ↔ ∀ x ∈ l, f x = none := by
  unfold lastOf
  rw [List.getLast?_eq_none_iff, List.filterMap_eq_nil_iff]

/-- A list with a member of a kind is cut at the last of them. -/
theorem exists_split_last {P : α → Prop} {l : List α} (h : ∃ x ∈ l, P x) :
    ∃ before x after, l = before ++ x :: after ∧ P x ∧ ∀ y ∈ after, ¬P y := by
  induction l with
  | nil =>
    obtain ⟨x, hx, -⟩ := h
    exact absurd hx List.not_mem_nil
  | cons z rest ih =>
    by_cases hrest : ∃ x ∈ rest, P x
    · obtain ⟨before, x, after, rfl, hx, hafter⟩ := ih hrest
      exact ⟨z :: before, x, after, rfl, hx, hafter⟩
    · have hnone : ∀ y ∈ rest, ¬P y := fun y hy hP => hrest ⟨y, hy, hP⟩
      obtain ⟨x, hx, hP⟩ := h
      obtain rfl := (List.mem_cons.1 hx).resolve_right fun hx => hnone x hx hP
      exact ⟨[], x, rest, rfl, hP, hnone⟩

/-! ## Parts -/

/-- The parts of an apparatus, each of which is set apart from the others. -/
inductive Part where
  | name
  | description
  | contract (side : Side)
  | callable
  deriving DecidableEq

namespace Part

/-- The parts that a processor must have, in the order in which they are looked at. -/
def ofProcessor : List Part := [.name, .contract .input, .contract .output, .callable]

/-- The parts that a switcher must have, in the order in which they are looked at. -/
def ofSwitcher : List Part :=
  [.name, .contract .input, .contract .whenTrue, .contract .whenFalse, .callable]

end Part

namespace Setting

/-- The part that a setting is about. -/
def part : Setting κ → Part
  | name _ => .name
  | description _ => .description
  | var side _ _ => .contract side
  | contract side _ => .contract side
  | callable _ => .callable

/-- The name that is set. -/
def name? : Setting κ → Option String
  | name s => some s
  | _ => none

/-- The description that is set. -/
def description? : Setting κ → Option String
  | description s => some s
  | _ => none

/-- The callable that is set. -/
def callable? : Setting κ → Option κ
  | callable f => some f
  | _ => none

/-- The whole contract that is set for a side. -/
def contract? (side : Side) : Setting κ → Option Contract
  | contract other c => if other = side then some c else none
  | _ => none

/-- The type that is set for a single var of a side. -/
def tag? (side : Side) (v : Var) : Setting κ → Option TypeTag
  | var other w tag => if other = side ∧ w = v then some tag else none
  | _ => none

/-- What settings make of the contract of a side. -/
inductive Composes (settings : List (Setting κ)) (side : Side) (c : Contract) : Prop where
  | onWhole {before base after} (split : settings = before ++ contract side base :: after)
      (last : ∀ s ∈ after, s.contract? side = none)
      (updated : ∀ v, c.get? v = (lastOf (tag? side v) after).or (base.get? v))
  | onNothing (whole : ∀ s ∈ settings, s.contract? side = none)
      (touched : ∃ s ∈ settings, s.part = .contract side)
      (updated : ∀ v, c.get? v = lastOf (tag? side v) settings)

/-- What is required of a part. -/
def Meets (settings : List (Setting κ)) : Part → Prop
  | .name => ∃ s, lastOf name? settings = some s ∧ Text.isBlankText s = false
  | .description => True
  | .contract side =>
    ∃ c, Composes settings side c ∧ ∀ v ∈ c.names, Text.isBlankText v = false
  | .callable => ∃ f, .callable f ∈ settings

/-- The error by which a part is reported that does not meet what is required of it. -/
inductive Lacks (settings : List (Setting κ)) : Part → RegistryError → Prop where
  | missingName (nameless : ∀ s, lastOf name? settings = some s → Text.isBlankText s = true) :
      Lacks settings .name .missingName
  | missingContract {s side} (named : lastOf name? settings = some s)
      (undeclared : ∀ x ∈ settings, x.part ≠ .contract side) :
      Lacks settings (.contract side) (.missingContract s side)
  | emptyVar {s side c v} (named : lastOf name? settings = some s)
      (composes : Composes settings side c) (declared : v ∈ c.names)
      (blank : Text.isBlankText v = true) : Lacks settings (.contract side) (.emptyVar s)
  | missingCallable {s} (named : lastOf name? settings = some s)
      (mute : ∀ f, .callable f ∉ settings) : Lacks settings .callable (.missingCallable s)

/-- A whole contract is set for a side, and then there is a last one, or none is. -/
theorem whole_or_none (settings : List (Setting κ)) (side : Side) :
    (∃ before base after, settings = before ++ contract side base :: after ∧
        ∀ s ∈ after, s.contract? side = none) ∨
      ∀ s ∈ settings, s.contract? side = none := by
  by_cases hwhole : ∃ s ∈ settings, s.contract? side ≠ none
  · obtain ⟨before, s, after, rfl, hs, hafter⟩ := exists_split_last hwhole
    obtain ⟨base, rfl⟩ : ∃ base, s = contract side base := by
      cases s with
      | contract other base =>
        obtain rfl : other = side := not_not.1 fun hne => hs (if_neg hne)
        exact ⟨base, rfl⟩
      | name _ => exact absurd rfl hs
      | description _ => exact absurd rfl hs
      | var _ _ _ => exact absurd rfl hs
      | callable _ => exact absurd rfl hs
    exact .inl ⟨before, base, after, rfl, fun x hx => not_not.1 (hafter x hx)⟩
  · exact .inr fun s hs => not_not.1 fun hne => hwhole ⟨s, hs, hne⟩

/-- A contract that is composed has been touched. -/
theorem Composes.touched {settings : List (Setting κ)} {side : Side} {c : Contract}
    (h : Composes settings side c) : ∃ s ∈ settings, s.part = .contract side := by
  cases h with
  | onWhole split =>
    exact ⟨_, split ▸ List.mem_append_right _ List.mem_cons_self, rfl⟩
  | onNothing _ touched => exact touched

end Setting

/-! ## Drafts of settings -/

namespace Draft

open Setting (Composes Meets Lacks)

variable {d d' : Draft κ} {s : Setting κ} {settings : List (Setting κ)} {side : Side}

/-- What each setting replaces or leaves is in the end what the last one made it. -/
theorem foldl_eq_lastOf (get : Draft κ → Option β) (f : Setting κ → Option β)
    (settings : List (Setting κ)) (d : Draft κ)
    (hstep : ∀ s ∈ settings, ∀ d, get (d.apply s) = (f s).or (get d)) :
    get (settings.foldl apply d) = (lastOf f settings).or (get d) := by
  induction settings generalizing d with
  | nil => rfl
  | cons s rest ih =>
    rw [List.forall_mem_cons] at hstep
    rw [List.foldl_cons, ih _ hstep.2, hstep.1, lastOf_cons, Option.or_assoc]

/-- The name of a draft is the one that was set last. -/
theorem name?_ofSettings (settings : List (Setting κ)) :
    (ofSettings settings).name? = lastOf Setting.name? settings := by
  have hlast := foldl_eq_lastOf (·.name?) Setting.name? settings {} fun s _ d => by cases s <;> rfl
  exact hlast.trans Option.or_none

/-- The description of a draft is the one that was set last, or nothing. -/
theorem description_ofSettings (settings : List (Setting κ)) :
    (ofSettings settings).description = (lastOf Setting.description? settings).getD "" := by
  have hlast := foldl_eq_lastOf (fun d => some d.description) Setting.description? settings {}
    fun s _ d => by cases s <;> rfl
  exact Option.some.inj (hlast.trans Option.or_some)

/-- The callable of a draft is the one that was set last. -/
theorem callable?_ofSettings (settings : List (Setting κ)) :
    (ofSettings settings).callable? = lastOf Setting.callable? settings := by
  have hlast := foldl_eq_lastOf (·.callable?) Setting.callable? settings {}
    fun s _ d => by cases s <;> rfl
  exact hlast.trans Option.or_none

/-! ### Contracts -/

/-- A side is undeclared as long as it has not been touched. -/
theorem contract?_apply_eq_none_iff :
    (d.apply s).contract? side = none ↔ s.part ≠ .contract side ∧ d.contract? side = none := by
  cases s with
  | name _ => exact (and_iff_right nofun).symm
  | description _ => exact (and_iff_right nofun).symm
  | callable _ => exact (and_iff_right nofun).symm
  | var other v tag =>
    by_cases h : side = other
    · simp [apply, withContract, Setting.part, h]
    · simp [apply, withContract, Setting.part, h, Ne.symm h]
  | contract other c =>
    by_cases h : side = other
    · simp [apply, withContract, Setting.part, h]
    · simp [apply, withContract, Setting.part, h, Ne.symm h]

/-- A setting that is no whole contract of a side puts a var in it, or leaves it. -/
theorem get?_contract?_apply (h : s.contract? side = none) (v : Var) :
    (((d.apply s).contract? side).getD ∅).get? v =
      (s.tag? side v).or (((d.contract? side).getD ∅).get? v) := by
  cases s with
  | name _ => rfl
  | description _ => rfl
  | callable _ => rfl
  | var other w tag =>
    by_cases hside : side = other
    · subst hside
      by_cases hv : v = w
      · simp [apply, withContract, Setting.tag?, hv]
      · simp [apply, withContract, Setting.tag?, hv, Ne.symm hv]
    · simp [apply, withContract, Setting.tag?, hside, Ne.symm hside]
  | contract other c =>
    have hside : side ≠ other := by
      rintro rfl
      simp [Setting.contract?] at h
    simp [apply, withContract, Setting.tag?, hside]

/-- A side has no contract when no setting is about it and it had none before. -/
theorem contract?_foldl_eq_none_iff :
    (settings.foldl apply d).contract? side = none ↔
      (∀ s ∈ settings, s.part ≠ .contract side) ∧ d.contract? side = none := by
  induction settings generalizing d with
  | nil => simp
  | cons s rest ih =>
    rw [List.foldl_cons, ih, contract?_apply_eq_none_iff, List.forall_mem_cons]
    tauto

/-- Settings that are no whole contracts of a side put vars in it, the later in place of the
earlier. -/
theorem get?_contract?_foldl (h : ∀ s ∈ settings, s.contract? side = none) (v : Var) :
    (((settings.foldl apply d).contract? side).getD ∅).get? v =
      (lastOf (Setting.tag? side v) settings).or (((d.contract? side).getD ∅).get? v) :=
  foldl_eq_lastOf (fun d => ((d.contract? side).getD ∅).get? v) (Setting.tag? side v) settings d
    fun s hs _ => get?_contract?_apply (h s hs) v

/-- A side has no contract when no setting is about it. -/
theorem contract?_ofSettings_eq_none_iff :
    (ofSettings settings).contract? side = none ↔ ∀ s ∈ settings, s.part ≠ .contract side :=
  contract?_foldl_eq_none_iff.trans (and_iff_left rfl)

/-- A draft has a contract for the sides that have been touched. -/
theorem exists_contract?_iff : (∃ c, (ofSettings settings).contract? side = some c) ↔
    ∃ s ∈ settings, s.part = .contract side := by
  rw [← Option.ne_none_iff_exists', ne_eq, contract?_ofSettings_eq_none_iff]
  push Not
  rfl

/-- The draft after the last whole contract of a side and what is set after it. -/
theorem get?_ofSettings_onWhole {before after : List (Setting κ)} {base : Contract}
    (last : ∀ s ∈ after, s.contract? side = none) (v : Var) :
    (((ofSettings (before ++ .contract side base :: after)).contract? side).getD ∅).get? v =
      (lastOf (Setting.tag? side v) after).or (base.get? v) := by
  have hbase : ((before.foldl apply {}).apply (.contract side base)).contract? side =
      some base := if_pos rfl
  unfold ofSettings
  rw [List.foldl_append, List.foldl_cons, get?_contract?_foldl last, hbase]
  rfl

/-- Where no whole contract was set, a var is declared as it was last. -/
theorem get?_ofSettings_onNothing (whole : ∀ s ∈ settings, s.contract? side = none) (v : Var) :
    (((ofSettings settings).contract? side).getD ∅).get? v =
      lastOf (Setting.tag? side v) settings :=
  (get?_contract?_foldl whole v).trans Option.or_none

/-- **The contract of a draft is what its settings compose.** -/
theorem contract?_ofSettings_eq_some_iff {c : Contract} :
    (ofSettings settings).contract? side = some c ↔ Composes settings side c := by
  constructor
  · intro h
    have hget (v : Var) :
        c.get? v = (((ofSettings settings).contract? side).getD ∅).get? v := by
      rw [h]
      rfl
    obtain ⟨before, base, after, rfl, last⟩ | whole := Setting.whole_or_none settings side
    · exact .onWhole rfl last fun v => (hget v).trans (get?_ofSettings_onWhole last v)
    · exact .onNothing whole (exists_contract?_iff.1 ⟨c, h⟩) fun v =>
        (hget v).trans (get?_ofSettings_onNothing whole v)
  · intro h
    obtain ⟨own, hown⟩ := exists_contract?_iff.2 h.touched
    have hget (v : Var) :
        own.get? v = (((ofSettings settings).contract? side).getD ∅).get? v := by
      rw [hown]
      rfl
    have hsame (v : Var) : own.get? v = c.get? v := by
      rw [hget]
      cases h with
      | onWhole split last updated =>
        subst split
        rw [get?_ofSettings_onWhole last, updated]
      | onNothing whole _ updated => rw [get?_ofSettings_onNothing whole, updated]
    rw [hown, Named.ext_get? hsame]

/-! ### Parts that are set apart -/

/-- Two drafts are alike in one part. -/
def Agrees (d d' : Draft κ) : Part → Prop
  | .name => d.name? = d'.name?
  | .description => d.description = d'.description
  | .contract side => d.contract? side = d'.contract? side
  | .callable => d.callable? = d'.callable?

theorem Agrees.refl (d : Draft κ) (part : Part) : d.Agrees d part := by cases part <;> rfl

theorem Agrees.symm {part : Part} (h : d.Agrees d' part) : d'.Agrees d part := by
  cases part <;> exact Eq.symm h

theorem Agrees.trans {d'' : Draft κ} {part : Part} (h : d.Agrees d' part)
    (h' : d'.Agrees d'' part) : d.Agrees d'' part := by
  cases part <;> exact Eq.trans h h'

/-- Drafts that agree on every part are equal. -/
theorem ext_agrees (h : ∀ part, d.Agrees d' part) : d = d' := by
  obtain ⟨name, description, contract, callable⟩ := d
  obtain ⟨name', description', contract', callable'⟩ := d'
  obtain rfl : name = name' := h .name
  obtain rfl : description = description' := h .description
  obtain rfl : contract = contract' := funext fun side => h (.contract side)
  obtain rfl : callable = callable' := h .callable
  rfl

/-- A setting does the same to drafts that are alike in a part. -/
theorem Agrees.apply {part : Part} (h : d.Agrees d' part) (s : Setting κ) :
    (d.apply s).Agrees (d'.apply s) part := by
  cases part with
  | name => cases s <;> first | rfl | exact h
  | description => cases s <;> first | rfl | exact h
  | callable => cases s <;> first | rfl | exact h
  | contract side =>
    have h : d.contract? side = d'.contract? side := h
    cases s with
    | name _ => exact h
    | description _ => exact h
    | callable _ => exact h
    | contract other c =>
      show (if side = other then some c else d.contract? side) = if side = other then _ else _
      rw [h]
    | var other v tag =>
      by_cases hside : side = other
      · subst hside
        simp only [Agrees, Draft.apply, withContract, if_true, h]
      · simpa only [Agrees, Draft.apply, withContract, if_neg hside] using h

/-- A setting leaves every part that it is not about. -/
theorem agrees_apply {part : Part} (h : s.part ≠ part) : (d.apply s).Agrees d part := by
  cases part with
  | name => cases s <;> first | rfl | exact absurd rfl h
  | description => cases s <;> first | rfl | exact absurd rfl h
  | callable => cases s <;> first | rfl | exact absurd rfl h
  | contract side =>
    cases s with
    | name _ => rfl
    | description _ => rfl
    | callable _ => rfl
    | contract other c => exact if_neg fun hside : side = other => h (hside ▸ rfl)
    | var other v tag => exact if_neg fun hside : side = other => h (hside ▸ rfl)

/-- A part is made by the settings that are about it, in their order. -/
theorem Agrees.foldl {part : Part} (h : d.Agrees d' part) (settings : List (Setting κ)) :
    (settings.foldl Draft.apply d).Agrees
      ((settings.filter (·.part = part)).foldl Draft.apply d') part := by
  induction settings generalizing d d' with
  | nil => exact h
  | cons s rest ih =>
    by_cases hpart : s.part = part
    · rw [List.filter_cons_of_pos (by simpa using hpart)]
      exact ih (h.apply s)
    · rw [List.filter_cons_of_neg (by simpa using hpart)]
      exact ih ((agrees_apply hpart).trans h)

/-- **Settings of different parts may change places.** -/
theorem ofSettings_of_filter {settings settings' : List (Setting κ)}
    (h : ∀ part, settings.filter (·.part = part) = settings'.filter (·.part = part)) :
    ofSettings settings = ofSettings settings' := by
  refine ext_agrees fun part => ?_
  have hleft := (Agrees.refl {} part).foldl settings
  have hright := (Agrees.refl {} part).foldl settings'
  rw [← h] at hright
  exact hleft.trans hright.symm

/-! ### Requirements -/

/-- A step of the building answers when a part meets what is required of it, and else reports what
it lacks. -/
structure Decides (settings : List (Setting κ)) (part : Part) (x : Except RegistryError α) :
    Prop where
  meets : (∃ a, x = .ok a) ↔ Meets settings part
  lacks : ∀ cause, x = .error cause ↔ Lacks settings part cause

/-- The first part of a list that does not meet what is required of it is reported. -/
def Reports (settings : List (Setting κ)) (required : List Part) (cause : RegistryError) : Prop :=
  ∃ k part, FirstAt (fun _ part => ¬Meets settings part) required k part ∧
    Lacks settings part cause

/-- What is built in steps reports what its first step lacks, or goes on. -/
theorem Decides.bind {part : Part} {rest : List Part} {x : Except RegistryError α}
    {f : α → Except RegistryError β} {cause : RegistryError} (h : Decides settings part x)
    (hnext : ∀ a, x = .ok a → (f a = .error cause ↔ Reports settings rest cause)) :
    x >>= f = .error cause ↔ Reports settings (part :: rest) cause := by
  unfold Reports
  cases x with
  | error own =>
    have hbroken : ¬Meets settings part := fun hmeets => nomatch h.meets.2 hmeets
    rw [FirstAt.exists_cons_of hbroken, ← h.lacks]
    exact ⟨fun h => congrArg _ (Except.error.inj h), fun h => congrArg _ (Except.error.inj h)⟩
  | ok a =>
    have hmeets : Meets settings part := h.meets.1 ⟨a, rfl⟩
    rw [FirstAt.exists_cons_of_not (not_not.2 hmeets)]
    exact hnext a rfl

/-- Where no part is required, none is reported. -/
theorem reports_nil {b : β} {cause : RegistryError} :
    (.ok b : Except RegistryError β) = .error cause ↔ Reports settings [] cause :=
  ⟨nofun, fun ⟨_, _, hfirst, _⟩ => absurd hfirst FirstAt.not_nil⟩

/-- A required name fails when it is missing or blank. -/
theorem requireName_eq_error {cause : RegistryError} : d.requireName = .error cause ↔
    (∀ s, d.name? = some s → Text.isBlankText s = true) ∧ cause = .missingName := by
  unfold requireName
  cases d.name? with
  | none => exact ⟨fun h => ⟨nofun, (Except.error.inj h).symm⟩, fun h => h.2 ▸ rfl⟩
  | some s =>
    simp only [Option.some.injEq, forall_eq']
    split <;> rename_i hs
    · exact ⟨nofun, fun h => by rw [hs] at h; cases h.1⟩
    · rw [Bool.not_eq_false] at hs
      exact ⟨fun h => ⟨hs, (Except.error.inj h).symm⟩, fun h => h.2 ▸ rfl⟩

/-- A required contract fails when it is missing, or when it has a blank var. -/
theorem requireContract_eq_error {name : String} {cause : RegistryError} :
    d.requireContract name side = .error cause ↔
      (d.contract? side = none ∧ cause = .missingContract name side) ∨
        ∃ c, d.contract? side = some c ∧ (∃ v ∈ c.names, Text.isBlankText v = true) ∧
          cause = .emptyVar name := by
  unfold requireContract
  cases d.contract? side with
  | none =>
    exact ⟨fun h => .inl ⟨rfl, (Except.error.inj h).symm⟩, fun h => by
      obtain ⟨-, rfl⟩ | ⟨c, hc, -⟩ := h
      · rfl
      · cases hc⟩
  | some c =>
    have hblank : (∃ v ∈ c.names, Text.isBlankText v = true) ↔
        c.names.any Text.isBlankText = true := List.any_eq_true.symm
    simp only [Option.some.injEq, exists_eq_left', hblank, reduceCtorEq, false_and, false_or]
    split <;> rename_i hvars
    · exact ⟨fun h => ⟨hvars, (Except.error.inj h).symm⟩, fun h => h.2 ▸ rfl⟩
    · exact ⟨nofun, fun h => absurd h.1 hvars⟩

/-- A required callable fails when it is missing. -/
theorem requireCallable_eq_error {name : String} {cause : RegistryError} :
    d.requireCallable name = .error cause ↔
      d.callable? = none ∧ cause = .missingCallable name := by
  unfold requireCallable
  cases d.callable? with
  | none => exact ⟨fun h => ⟨rfl, (Except.error.inj h).symm⟩, fun h => h.2 ▸ rfl⟩
  | some f => exact ⟨nofun, fun h => nomatch h.1⟩

/-- A draft declares on a side what its settings compose there, if no var of it is blank. -/
theorem declares_ofSettings_iff {c : Contract} : (ofSettings settings).Declares side c ↔
    Composes settings side c ∧ ∀ v ∈ c.names, Text.isBlankText v = false := by
  unfold Declares
  rw [contract?_ofSettings_eq_some_iff, List.any_eq_false]
  simp only [Bool.not_eq_true]

/-- No callable is set last when none is set. -/
theorem mute_iff : lastOf Setting.callable? settings = none ↔ ∀ f, .callable f ∉ settings := by
  rw [lastOf_eq_none_iff]
  constructor
  · exact fun h f hf => nomatch h _ hf
  · intro h s hs
    cases s with
    | callable f => exact absurd hs (h f)
    | name _ => rfl
    | description _ => rfl
    | var _ _ _ => rfl
    | contract _ _ => rfl

/-- A callable is set last when one is set. -/
theorem exists_callable_iff : (∃ f, lastOf Setting.callable? settings = some f) ↔
    ∃ f, .callable f ∈ settings := by
  rw [← Option.ne_none_iff_exists', ne_eq, mute_iff]
  push Not
  rfl

/-- Requiring the name decides whether the settings meet that part. -/
theorem decides_name (settings : List (Setting κ)) :
    Decides settings .name (ofSettings settings).requireName where
  meets := by
    show (∃ n, (ofSettings settings).requireName = .ok n) ↔ ∃ s, _ ∧ _
    simp only [requireName_eq_ok, name?_ofSettings]
    exact ⟨fun ⟨n, hn⟩ => ⟨n.1, hn, n.2⟩, fun ⟨s, hs, hblank⟩ => ⟨⟨s, hblank⟩, hs⟩⟩
  lacks cause := by
    rw [requireName_eq_error, name?_ofSettings]
    constructor
    · rintro ⟨hblank, rfl⟩
      exact .missingName hblank
    · rintro ⟨hblank⟩
      exact ⟨hblank, rfl⟩

section Named

variable {name : String} (named : lastOf Setting.name? settings = some name)
include named

/-- Requiring a contract decides whether the settings meet that side. -/
theorem decides_contract (side : Side) :
    Decides settings (.contract side) ((ofSettings settings).requireContract name side) where
  meets := exists_congr fun c => requireContract_eq_ok.trans declares_ofSettings_iff
  lacks cause := by
    simp only [requireContract_eq_error, contract?_ofSettings_eq_none_iff,
      contract?_ofSettings_eq_some_iff]
    constructor
    · rintro (⟨hundeclared, rfl⟩ | ⟨c, hc, ⟨v, hv, hblank⟩, rfl⟩)
      · exact .missingContract named hundeclared
      · exact .emptyVar named hc hv hblank
    · rintro (_ | ⟨hname, hundeclared⟩ | ⟨hname, hc, hv, hblank⟩)
      · obtain rfl := Option.some.inj (named.symm.trans hname)
        exact .inl ⟨hundeclared, rfl⟩
      · obtain rfl := Option.some.inj (named.symm.trans hname)
        exact .inr ⟨_, hc, ⟨_, hv, hblank⟩, rfl⟩

/-- Requiring the callable decides whether the settings meet that part. -/
theorem decides_callable :
    Decides settings .callable ((ofSettings settings).requireCallable name) where
  meets := by
    refine Iff.trans ?_ exists_callable_iff
    rw [← callable?_ofSettings]
    exact exists_congr fun f => requireCallable_eq_ok
  lacks cause := by
    rw [requireCallable_eq_error, callable?_ofSettings, mute_iff]
    constructor
    · rintro ⟨hmute, rfl⟩
      exact .missingCallable named hmute
    · rintro (_ | _ | _ | ⟨hname, hmute⟩)
      obtain rfl := Option.some.inj (named.symm.trans hname)
      exact ⟨hmute, rfl⟩

end Named

end Draft

/-! ## What is built -/

/-- A processor has the parts that settings ask for. -/
structure Processor.Carries (p : Processor σ) (settings : List (Setting (Record → Call σ Record))) :
    Prop where
  name : lastOf Setting.name? settings = some p.name
  description : (lastOf Setting.description? settings).getD "" = p.description
  input : Setting.Composes settings .input p.input
  output : Setting.Composes settings .output p.output
  process : lastOf Setting.callable? settings = some p.process

/-- A switcher has the parts that settings ask for. -/
structure Switcher.Carries (w : Switcher σ)
    (settings : List (Setting (Record → Call σ (Bool × Record)))) : Prop where
  name : lastOf Setting.name? settings = some w.name
  description : (lastOf Setting.description? settings).getD "" = w.description
  input : Setting.Composes settings .input w.input
  whenTrue : Setting.Composes settings .whenTrue w.whenTrue
  whenFalse : Setting.Composes settings .whenFalse w.whenFalse
  check : lastOf Setting.callable? settings = some w.check

namespace Draft

open Setting (Meets)

section Processor

variable {settings : List (Setting (Record → Call σ Record))} {p : Processor σ}

/-- A processor that is built carries what was set. -/
theorem carries_of_toProcessor (h : (ofSettings settings).toProcessor = .ok p) :
    p.Carries settings := by
  obtain ⟨hname, hdescription, hinput, houtput, hprocess⟩ := toProcessor_eq_ok.1 h
  rw [name?_ofSettings] at hname
  rw [description_ofSettings] at hdescription
  rw [callable?_ofSettings] at hprocess
  exact ⟨hname, hdescription, (declares_ofSettings_iff.1 hinput).1,
    (declares_ofSettings_iff.1 houtput).1, hprocess⟩

/-- A processor is built exactly when its settings meet each of its parts. -/
theorem exists_toProcessor_iff : (∃ p : Processor σ, (ofSettings settings).toProcessor = .ok p) ↔
    ∀ part ∈ Part.ofProcessor, Meets settings part := by
  unfold Part.ofProcessor
  simp only [List.forall_mem_cons, List.not_mem_nil, false_implies, implies_true, and_true, Meets,
    ← declares_ofSettings_iff, ← exists_callable_iff, ← name?_ofSettings, ← callable?_ofSettings]
  constructor
  · rintro ⟨p, hp⟩
    obtain ⟨hname, -, hinput, houtput, hprocess⟩ := toProcessor_eq_ok.1 hp
    exact ⟨⟨_, hname, p.named⟩, ⟨_, hinput⟩, ⟨_, houtput⟩, ⟨_, hprocess⟩⟩
  · rintro ⟨⟨name, hname, named⟩, ⟨input, hinput⟩, ⟨output, houtput⟩, ⟨process, hprocess⟩⟩
    exact exists_processor named hname hinput houtput hprocess

/-- A processor that is not built is refused for the first part that its settings do not meet. -/
theorem toProcessor_eq_error_iff {cause : RegistryError} :
    (ofSettings settings).toProcessor = .error cause ↔
      Reports settings Part.ofProcessor cause := by
  refine (decides_name settings).bind fun ⟨name, _⟩ hname => ?_
  have named : lastOf Setting.name? settings = some name :=
    name?_ofSettings settings ▸ requireName_eq_ok.1 hname
  refine (decides_contract named .input).bind fun input _ => ?_
  refine (decides_contract named .output).bind fun output _ => ?_
  exact (decides_callable named).bind fun process _ => reports_nil

end Processor

section Switcher

variable {settings : List (Setting (Record → Call σ (Bool × Record)))} {w : Switcher σ}

/-- A switcher that is built carries what was set. -/
theorem carries_of_toSwitcher (h : (ofSettings settings).toSwitcher = .ok w) :
    w.Carries settings := by
  obtain ⟨hname, hdescription, hinput, htrue, hfalse, hcheck⟩ := toSwitcher_eq_ok.1 h
  rw [name?_ofSettings] at hname
  rw [description_ofSettings] at hdescription
  rw [callable?_ofSettings] at hcheck
  exact ⟨hname, hdescription, (declares_ofSettings_iff.1 hinput).1,
    (declares_ofSettings_iff.1 htrue).1, (declares_ofSettings_iff.1 hfalse).1, hcheck⟩

/-- A switcher is built exactly when its settings meet each of its parts. -/
theorem exists_toSwitcher_iff : (∃ w : Switcher σ, (ofSettings settings).toSwitcher = .ok w) ↔
    ∀ part ∈ Part.ofSwitcher, Meets settings part := by
  unfold Part.ofSwitcher
  simp only [List.forall_mem_cons, List.not_mem_nil, false_implies, implies_true, and_true, Meets,
    ← declares_ofSettings_iff, ← exists_callable_iff, ← name?_ofSettings, ← callable?_ofSettings]
  constructor
  · rintro ⟨w, hw⟩
    obtain ⟨hname, -, hinput, htrue, hfalse, hcheck⟩ := toSwitcher_eq_ok.1 hw
    exact ⟨⟨_, hname, w.named⟩, ⟨_, hinput⟩, ⟨_, htrue⟩, ⟨_, hfalse⟩, ⟨_, hcheck⟩⟩
  · rintro ⟨⟨name, hname, named⟩, ⟨input, hinput⟩, ⟨whenTrue, htrue⟩, ⟨whenFalse, hfalse⟩,
      ⟨check, hcheck⟩⟩
    exact exists_switcher named hname hinput htrue hfalse hcheck

/-- A switcher that is not built is refused for the first part that its settings do not meet. -/
theorem toSwitcher_eq_error_iff {cause : RegistryError} :
    (ofSettings settings).toSwitcher = .error cause ↔
      Reports settings Part.ofSwitcher cause := by
  refine (decides_name settings).bind fun ⟨name, _⟩ hname => ?_
  have named : lastOf Setting.name? settings = some name :=
    name?_ofSettings settings ▸ requireName_eq_ok.1 hname
  refine (decides_contract named .input).bind fun input _ => ?_
  refine (decides_contract named .whenTrue).bind fun whenTrue _ => ?_
  refine (decides_contract named .whenFalse).bind fun whenFalse _ => ?_
  exact (decides_callable named).bind fun check _ => reports_nil

end Switcher

/-- **What is built is what was set last.**  A processor or a switcher is built from settings
exactly when its parts meet what is required of them, and has the parts that the settings ask for;
otherwise the first part in order that does not meet it is reported.  Settings in which each part is
set in the same way come to the same draft, whatever else stands between. -/
theorem built_from_settings :
    (∀ settings : List (Setting (Record → Call σ Record)),
      ((∃ p : Processor σ, (ofSettings settings).toProcessor = .ok p) ↔
        ∀ part ∈ Part.ofProcessor, Meets settings part) ∧
      (∀ p : Processor σ, (ofSettings settings).toProcessor = .ok p → p.Carries settings) ∧
      ∀ cause, (ofSettings settings).toProcessor = .error cause ↔
        Reports settings Part.ofProcessor cause) ∧
    (∀ settings : List (Setting (Record → Call σ (Bool × Record))),
      ((∃ w : Switcher σ, (ofSettings settings).toSwitcher = .ok w) ↔
        ∀ part ∈ Part.ofSwitcher, Meets settings part) ∧
      (∀ w : Switcher σ, (ofSettings settings).toSwitcher = .ok w → w.Carries settings) ∧
      ∀ cause, (ofSettings settings).toSwitcher = .error cause ↔
        Reports settings Part.ofSwitcher cause) ∧
    ∀ settings settings' : List (Setting κ),
      (∀ part, settings.filter (·.part = part) = settings'.filter (·.part = part)) →
        ofSettings settings = ofSettings settings' := by
  refine ⟨fun settings => ⟨exists_toProcessor_iff, ?_, ?_⟩,
    fun settings => ⟨exists_toSwitcher_iff, ?_, ?_⟩, fun settings settings' => ?_⟩
  · exact fun p => carries_of_toProcessor
  · exact fun cause => toProcessor_eq_error_iff
  · exact fun w => carries_of_toSwitcher
  · exact fun cause => toSwitcher_eq_error_iff
  · exact ofSettings_of_filter

/-- A blank var of the input is reported before a missing output. -/
example : (ofSettings [.var .input " " (.text "nameless"), .name "blank"]).toProcessor =
    (.error (.emptyVar "blank") : Except RegistryError (Processor Unit)) := by
  rfl

end Draft
end ApparatusGraph
