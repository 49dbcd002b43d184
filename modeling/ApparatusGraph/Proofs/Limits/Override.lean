/-
# Limits that variables override

A variable that is set asks for something (`Limits.Asks`) or is refused (`Limits.Refused`):

| text, blanks around it aside | asks for |
| --- | --- |
| decimal digits, a plus sign allowed before them, of a number of 64 bits | that number |
| nothing, or `none` in capitals or not | no budget, of a budget |
| anything else | nothing |

The limits that come out are said without regard to how the variables are read
(`Limits.Resolves`): each limit is what its variable asks for, the budget in milliseconds
before that in seconds, and what no variable says is as before.  The three variables are read in
one way (`Limits.takenOver`), so one lemma about it serves all of them.
-/

import Mathlib.Data.Nat.Digits.Defs
import Mathlib.Tactic.MkIffOfInductiveProp
import ApparatusGraph.Limits.Environment
import ApparatusGraph.Proofs.Foundry.Building
import ApparatusGraph.Proofs.Limits.Rounding
import ApparatusGraph.Proofs.Run.Boundary
import ApparatusGraph.Proofs.Text.Trimming

namespace ApparatusGraph

/-! ## Texts -/

namespace Text

/-- A text spells a number: decimal digits, and nothing but a plus sign before them. -/
def Spells (s : String) (n : Nat) : Prop :=
  ∃ sign digits, s.toList = sign ++ digits ∧ (sign = [] ∨ sign = ['+']) ∧ digits ≠ [] ∧
    (∀ c ∈ digits, c.isDigit = true) ∧
    Nat.ofDigits 10 (digits.reverse.map Decimal.digitValue) = n

/-- A text is the word `none`, each letter a capital or not. -/
def SaysNone (s : String) : Prop :=
  ∃ a b c d, s.toList = [a, b, c, d] ∧ a ∈ ['n', 'N'] ∧ b ∈ ['o', 'O'] ∧ c ∈ ['n', 'N'] ∧
    d ∈ ['e', 'E']

variable {s : String}

/-- The value of decimal digits is that of their numbers to the base ten. -/
theorem digitsValue_eq_ofDigits (cs : List Char) :
    Decimal.digitsValue cs = Nat.ofDigits 10 (cs.reverse.map Decimal.digitValue) := by
  unfold Decimal.digitsValue
  rw [List.foldl_eq_foldr_reverse, Nat.ofDigits_eq_foldr, List.foldr_map]
  refine congrArg (fun f => List.foldr f 0 cs.reverse) ?_
  funext c n
  exact Nat.add_comm _ _

/-- What follows the plus sign that a text may begin with. -/
def unsigned : List Char → List Char
  | '+' :: rest => rest
  | cs => cs

/-- Characters are a sign, or none, and what is unsigned. -/
theorem exists_sign (cs : List Char) :
    ∃ sign, (sign = [] ∨ sign = ['+']) ∧ cs = sign ++ unsigned cs := by
  unfold unsigned
  split
  · exact ⟨['+'], .inr rfl, rfl⟩
  · exact ⟨[], .inl rfl, rfl⟩

/-- Digits after a sign, or after none, are what is unsigned. -/
theorem unsigned_append {sign digits : List Char} (hsign : sign = [] ∨ sign = ['+'])
    (hdigits : ∀ c ∈ digits, c.isDigit = true) : unsigned (sign ++ digits) = digits := by
  rcases hsign with rfl | rfl
  · rw [List.nil_append]
    unfold unsigned
    split
    · cases hdigits '+' List.mem_cons_self
    · rfl
  · rfl

/-- A text is a word of 64 bits when it is digits after a sign that may be left out, and their value
fits. -/
theorem uint64?_eq (s : String) : uint64? s =
    if unsigned s.toList ≠ [] ∧ (unsigned s.toList).all Char.isDigit ∧
        Decimal.digitsValue (unsigned s.toList) < 0x10000000000000000 then
      some (.ofNat (Decimal.digitsValue (unsigned s.toList)))
    else none := rfl

/-- **A text is read as the number that it spells,** if it has 64 bits. -/
theorem uint64?_eq_some_iff {n : UInt64} : uint64? s = some n ↔ Spells s n.toNat := by
  rw [uint64?_eq]
  unfold Spells
  constructor
  · intro h
    obtain ⟨sign, hsign, hsplit⟩ := exists_sign s.toList
    split at h
    · rename_i hgood
      obtain ⟨hne, hall, hlt⟩ := hgood
      obtain rfl := Option.some.inj h
      refine ⟨sign, _, hsplit, hsign, hne, List.all_eq_true.1 hall, ?_⟩
      rw [← digitsValue_eq_ofDigits, UInt64.toNat_ofNat_of_lt' hlt]
    · cases h
  · rintro ⟨sign, digits, hsplit, hsign, hne, hall, hvalue⟩
    have hlt : n.toNat < 0x10000000000000000 := n.toNat_lt
    rw [hsplit, unsigned_append hsign hall, digitsValue_eq_ofDigits, hvalue,
      if_pos ⟨hne, List.all_eq_true.2 hall, hlt⟩, UInt64.ofNat_toNat]

/-- A character in lower case lies 32 after the upper one. -/
theorem toNat_toLower (c : Char) : c.toLower.toNat =
    if 65 ≤ c.toNat ∧ c.toNat ≤ 90 then c.toNat + 32 else c.toNat := by
  have hcapital : (c.val ≥ 'A'.val ∧ c.val ≤ 'Z'.val) ↔ 65 ≤ c.toNat ∧ c.toNat ≤ 90 := Iff.rfl
  unfold Char.toLower
  split
  · rename_i h
    have hc := hcapital.1 h
    rw [if_pos hc]
    show (c.val + 32).toNat = c.val.toNat + 32
    rw [UInt32.toNat_add]
    exact Nat.mod_eq_of_lt (by show c.toNat + 32 < _; omega)
  · rename_i h
    rw [if_neg (mt hcapital.2 h)]

/-- A letter comes from itself and from its capital. -/
theorem toLower_eq_iff {c lower upper : Char} (hupper : 65 ≤ upper.toNat ∧ upper.toNat ≤ 90)
    (hlower : lower.toNat = upper.toNat + 32) : c.toLower = lower ↔ c ∈ [lower, upper] := by
  rw [List.mem_cons, List.mem_singleton, ← Char.toNat_inj, ← Char.toNat_inj, ← Char.toNat_inj,
    toNat_toLower]
  split <;> omega

/-- A text is `none` in lower case when it says so letter by letter. -/
theorem toLower_eq_none_iff : s.toLower = "none" ↔ SaysNone s := by
  have hn (c : Char) : c.toLower = 'n' ↔ c ∈ ['n', 'N'] := toLower_eq_iff (by decide) (by decide)
  have ho (c : Char) : c.toLower = 'o' ↔ c ∈ ['o', 'O'] := toLower_eq_iff (by decide) (by decide)
  have he (c : Char) : c.toLower = 'e' ↔ c ∈ ['e', 'E'] := toLower_eq_iff (by decide) (by decide)
  have hletters : s.toLower = "none" ↔ s.toList.map Char.toLower = ['n', 'o', 'n', 'e'] := by
    rw [← String.toList_inj]
    unfold String.toLower
    rw [String.toList_map]
    rfl
  rw [hletters]
  unfold SaysNone
  constructor
  · intro h
    obtain ⟨a, _, hs, ha, h⟩ := List.map_eq_cons_iff.1 h
    obtain ⟨b, _, rfl, hb, h⟩ := List.map_eq_cons_iff.1 h
    obtain ⟨c, _, rfl, hc, h⟩ := List.map_eq_cons_iff.1 h
    obtain ⟨d, _, rfl, hd, h⟩ := List.map_eq_cons_iff.1 h
    obtain rfl := List.map_eq_nil_iff.1 h
    exact ⟨a, b, c, d, hs, (hn a).1 ha, (ho b).1 hb, (hn c).1 hc, (he d).1 hd⟩
  · rintro ⟨a, b, c, d, hs, ha, hb, hc, hd⟩
    rw [hs, List.map_cons, List.map_cons, List.map_cons, List.map_cons, List.map_nil,
      (hn a).2 ha, (ho b).2 hb, (hn c).2 hc, (he d).2 hd]

/-- A number is no word, and it is not nothing. -/
theorem Spells.not_unlimited {n : Nat} (h : Spells s n) : ¬(s.toLower = "none" ∨ s = "") := by
  obtain ⟨sign, digits, hsplit, -, hne, hall, -⟩ := h
  obtain ⟨c, hc⟩ := List.exists_mem_of_ne_nil digits hne
  have hdigit := hall c hc
  have hmem : c ∈ s.toList := hsplit ▸ List.mem_append_right sign hc
  rintro (hword | rfl)
  · obtain ⟨a, b, d, e, hs, ha, hb, hd, he⟩ := toLower_eq_none_iff.1 hword
    have hletter : c ∈ ['n', 'N', 'o', 'O', 'e', 'E'] := by
      rw [hs] at hmem
      simp only [List.mem_cons, List.not_mem_nil, or_false] at hmem ha hb hd he ⊢
      grind
    have hnone : ['n', 'N', 'o', 'O', 'e', 'E'].any Char.isDigit = false := by decide
    exact List.any_eq_false.1 hnone c hletter hdigit
  · cases hmem

/-- What is `none` or nothing after trimming is blank or says so. -/
theorem unlimited_iff : (trim s).toLower = "none" ∨ trim s = "" ↔
    isBlankText s = true ∨ SaysNone (trim s) := by
  rw [toLower_eq_none_iff, trim_eq_empty_iff, or_comm]

end Text

/-! ## Variables -/

/-- The variables that are read before a variable. -/
def LimitVariable.earlier : LimitVariable → List LimitVariable
  | maxSteps => []
  | timeoutSecs => [maxSteps]
  | timeoutMs => [maxSteps, timeoutSecs]

namespace Limits

/-- What a variable that is set to a text asks for: a number, or of a budget that there is none. -/
inductive Asks (which : LimitVariable) (value : String) : Option UInt64 → Prop where
  | number {n : UInt64} (spelled : Text.Spells (Text.trim value) n.toNat) :
      Asks which value (some n)
  | lifted (budget : which ≠ .maxSteps)
      (unlimited : Text.isBlankText value = true ∨ Text.SaysNone (Text.trim value)) :
      Asks which value none

/-- A variable is set to a text that asks for nothing. -/
structure Refused (lookup : LimitVariable → Option String) (which : LimitVariable)
    (value : String) : Prop where
  set : lookup which = some value
  senseless : ∀ asked, ¬Asks which value asked

/-- The limits that variables ask for over other limits. -/
@[mk_iff]
structure Resolves (l : Limits) (lookup : LimitVariable → Option String) (c : Limits) : Prop where
  steps : match lookup .maxSteps with
    | some value => Asks .maxSteps value (some c.maxSteps)
    | none => c.maxSteps = l.maxSteps
  budget : match lookup .timeoutMs, lookup .timeoutSecs with
    | some value, _ => Asks .timeoutMs value c.timeoutMs
    | none, some value => ∃ asked, Asks .timeoutSecs value asked ∧
        c.timeoutMs.map UInt64.toNat = asked.map fun secs =>
          min (1000 * secs.toNat) (0xFFFFFFFFFFFFFFFF)
    | none, none => c.timeoutMs = l.timeoutMs

variable {α : Type} {lookup : LimitVariable → Option String} {which : LimitVariable}
  {value : String}

/-- A text asks for one thing. -/
theorem Asks.unique {asked asked' : Option UInt64} (h : Asks which value asked)
    (h' : Asks which value asked') : asked = asked' := by
  cases h with
  | number spelled =>
    cases h' with
    | number spelled' =>
      exact (Text.uint64?_eq_some_iff.2 spelled).symm.trans (Text.uint64?_eq_some_iff.2 spelled')
    | lifted _ unlimited => exact absurd (Text.unlimited_iff.2 unlimited) spelled.not_unlimited
  | lifted _ unlimited =>
    cases h' with
    | number spelled => exact absurd (Text.unlimited_iff.2 unlimited) spelled.not_unlimited
    | lifted => rfl

/-- A value that asks for something is not refused. -/
theorem Asks.not_refused {asked : Option UInt64} (h : Asks which value asked)
    (hset : lookup which = some value) (text : String) : ¬Refused lookup which text := by
  intro hrefused
  obtain rfl : value = text := Option.some.inj (hset.symm.trans hrefused.set)
  exact hrefused.senseless asked h

/-- A reader of a variable gives what texts come to, and refuses those that ask for nothing. -/
structure Reads (which : LimitVariable) (read : String → Except LimitsError α)
    (comes : String → α → Prop) : Prop where
  ok : ∀ value a, read value = .ok a ↔ comes value a
  asks : ∀ value, (∃ a, comes value a) ↔ ∃ asked, Asks which value asked
  error : ∀ value cause, read value = .error cause → cause = .badVariable which value

/-- The limit on steps is read by the rule of its variable. -/
theorem reads_stepsOf :
    Reads .maxSteps stepsOf fun value n => Asks .maxSteps value (some n) where
  ok value n := by
    have hasks : Asks .maxSteps value (some n) ↔ Text.uint64? (Text.trim value) = some n := by
      rw [Text.uint64?_eq_some_iff]
      exact ⟨fun h => by cases h; assumption, .number⟩
    rw [hasks]
    unfold stepsOf
    cases Text.uint64? (Text.trim value) with
    | none => exact ⟨nofun, nofun⟩
    | some m => rw [Except.ok.injEq, Option.some.injEq]
  asks value := by
    constructor
    · rintro ⟨n, h⟩
      exact ⟨some n, h⟩
    · rintro ⟨asked, h⟩
      cases h with
      | number spelled => exact ⟨_, .number spelled⟩
      | lifted budget => exact absurd rfl budget
  error value cause h := by
    unfold stepsOf at h
    split at h
    · cases h
    · exact (Except.error.inj h).symm

/-- A budget is read by the rule of its variable. -/
theorem reads_budgetOf (hwhich : which ≠ .maxSteps) :
    Reads which (budgetOf which) (Asks which) where
  ok value asked := by
    unfold budgetOf
    dsimp only
    split
    · rename_i hunlimited
      constructor
      · rintro ⟨⟩
        exact .lifted hwhich (Text.unlimited_iff.1 hunlimited)
      · intro h
        cases h with
        | number spelled => exact absurd hunlimited spelled.not_unlimited
        | lifted => rfl
    · rename_i hlimited
      constructor
      · intro h
        split at h
        · rename_i n hn
          cases h
          exact .number (Text.uint64?_eq_some_iff.1 hn)
        · cases h
      · intro h
        cases h with
        | number spelled => rw [Text.uint64?_eq_some_iff.2 spelled]
        | lifted _ unlimited => exact absurd (Text.unlimited_iff.2 unlimited) hlimited
  asks value := Iff.rfl
  error value cause h := by
    unfold budgetOf at h
    dsimp only at h
    split at h
    · cases h
    · split at h
      · cases h
      · exact (Except.error.inj h).symm

/-- What is read may be changed afterwards. -/
theorem Reads.map {β : Type} {read : String → Except LimitsError α} {comes : String → α → Prop}
    (h : Reads which read comes) (f : α → β) :
    Reads which (fun value => f <$> read value) fun value b => ∃ a, comes value a ∧ b = f a where
  ok value b := by
    cases hread : read value with
    | error cause =>
      refine ⟨nofun, ?_⟩
      rintro ⟨a, ha, -⟩
      rw [(h.ok value a).2 ha] at hread
      cases hread
    | ok a =>
      have ha := (h.ok value a).1 hread
      constructor
      · rintro ⟨⟩
        exact ⟨a, ha, rfl⟩
      · rintro ⟨a', ha', rfl⟩
        rw [(h.ok value a').2 ha'] at hread
        cases hread
        rfl
  asks value := by
    rw [← h.asks value]
    exact ⟨fun ⟨_, a, ha, _⟩ => ⟨a, ha⟩, fun ⟨a, ha⟩ => ⟨f a, a, ha, rfl⟩⟩
  error value cause hcause := by
    cases hread : read value with
    | error other =>
      rw [hread] at hcause
      cases hcause
      exact h.error value _ hread
    | ok a =>
      rw [hread] at hcause
      cases hcause

/-- The budget in milliseconds that a variable in seconds asks for. -/
def secondsOf (value : String) : Except LimitsError (Option UInt64) :=
  Option.map millisOfSeconds <$> budgetOf .timeoutSecs value

/-- A budget in seconds is read by that rule, and turned into milliseconds. -/
theorem reads_secondsOf : Reads .timeoutSecs secondsOf fun value budget =>
    ∃ asked, Asks .timeoutSecs value asked ∧ budget = asked.map millisOfSeconds :=
  (reads_budgetOf (by decide)).map _

/-- A budget in milliseconds is read by that rule. -/
theorem reads_millisOf : Reads .timeoutMs (budgetOf .timeoutMs) (Asks .timeoutMs) :=
  reads_budgetOf (by decide)

/-- **Seconds are a thousand milliseconds each,** as many as fit in 64 bits. -/
theorem toNat_millisOfSeconds (secs : UInt64) :
    (millisOfSeconds secs).toNat = min (1000 * secs.toNat) (0xFFFFFFFFFFFFFFFF) := by
  have hwhole : (secs.toNat * 1000000000 + 999999) / 1000000 = 1000 * secs.toNat := by omega
  unfold millisOfSeconds
  rw [Duration.toNat_toMillis, Duration.toNanos_ofSeconds, hwhole]

/-- A budget is that of some seconds when it is a thousand times as many milliseconds, or the most
that a word holds. -/
theorem eq_map_millisOfSeconds_iff {budget asked : Option UInt64} :
    budget = asked.map millisOfSeconds ↔ budget.map UInt64.toNat =
      asked.map fun secs => min (1000 * secs.toNat) (0xFFFFFFFFFFFFFFFF) := by
  have htoNat : Function.Injective UInt64.toNat := fun _ _ => UInt64.toNat_inj.1
  rw [← (Option.map_injective htoNat).eq_iff, Option.map_map]
  have hmillis : UInt64.toNat ∘ millisOfSeconds =
      fun secs => min (1000 * secs.toNat) (0xFFFFFFFFFFFFFFFF) := by
    funext secs
    rw [Function.comp_apply, toNat_millisOfSeconds]
  rw [hmillis]

/-! ## Overriding -/

/-- What a variable comes to, and the default where it is not set. -/
def takenOver (value? : Option String) (read : String → Except LimitsError α) (default : α) :
    Except LimitsError α :=
  match value? with
  | some value => read value
  | none => .ok default

/-- Limits are overridden variable by variable, and what comes out is validated. -/
theorem override_eq (l : Limits) (lookup : LimitVariable → Option String) :
    l.override lookup = (do
      let maxSteps ← takenOver (lookup .maxSteps) stepsOf l.maxSteps
      let budget ← takenOver (lookup .timeoutSecs) secondsOf l.timeoutMs
      let budget ← takenOver (lookup .timeoutMs) (budgetOf .timeoutMs) budget
      (Limits.mk maxSteps budget).validate
      .ok ⟨maxSteps, budget⟩) := by
  unfold override takenOver
  cases lookup .maxSteps <;> cases lookup .timeoutSecs <;> cases lookup .timeoutMs <;> rfl

namespace Reads

variable {read : String → Except LimitsError α} {comes : String → α → Prop} {default : α}

/-- A text is refused when nothing is read from it. -/
theorem refused_iff (h : Reads which read comes) (hset : lookup which = some value) :
    Refused lookup which value ↔ read value = .error (.badVariable which value) := by
  constructor
  · intro hrefused
    cases hread : read value with
    | error cause => rw [h.error value cause hread]
    | ok a =>
      obtain ⟨asked, hasked⟩ := (h.asks value).1 ⟨a, (h.ok value a).1 hread⟩
      exact absurd hasked (hrefused.senseless asked)
  · intro hread
    refine ⟨hset, fun asked hasked => ?_⟩
    obtain ⟨a, ha⟩ := (h.asks value).2 ⟨asked, hasked⟩
    rw [(h.ok value a).2 ha] at hread
    cases hread

/-- A variable that is set is read by its rule, and one that is not leaves what was there. -/
theorem takenOver_eq_ok_iff (h : Reads which read comes) {value? : Option String} {a : α} :
    takenOver value? read default = .ok a ↔ match value? with
      | some value => comes value a
      | none => a = default := by
  unfold takenOver
  cases value? with
  | none => exact Except.ok.injEq default a ▸ eq_comm
  | some value => exact h.ok value a

/-- A variable fails when its value is refused. -/
theorem takenOver_eq_error_iff (h : Reads which read comes) {cause : LimitsError} :
    takenOver (lookup which) read default = .error cause ↔
      ∃ value, Refused lookup which value ∧ cause = .badVariable which value := by
  unfold takenOver
  cases hset : lookup which with
  | none =>
    refine ⟨nofun, fun ⟨value, hrefused, _⟩ => ?_⟩
    rw [hrefused.set] at hset
    cases hset
  | some value =>
    dsimp only
    constructor
    · intro hread
      obtain rfl := h.error value cause hread
      exact ⟨value, (h.refused_iff hset).2 hread, rfl⟩
    · rintro ⟨other, hrefused, rfl⟩
      obtain rfl : value = other := Option.some.inj (hset.symm.trans hrefused.set)
      exact (h.refused_iff hset).1 hrefused

/-- A variable that is not refused comes to something. -/
theorem exists_takenOver_iff (h : Reads which read comes) (default : α) :
    (∃ a, takenOver (lookup which) read default = .ok a) ↔
      ∀ value, ¬Refused lookup which value := by
  cases htaken : takenOver (lookup which) read default with
  | error cause =>
    obtain ⟨value, hrefused, -⟩ := h.takenOver_eq_error_iff.1 htaken
    exact ⟨nofun, fun hnot => absurd hrefused (hnot value)⟩
  | ok a =>
    refine ⟨fun _ value hrefused => ?_, fun _ => ⟨a, rfl⟩⟩
    rw [h.takenOver_eq_error_iff.2 ⟨value, hrefused, rfl⟩] at htaken
    cases htaken

/-- **A variable that is refused ends the reading.** -/
theorem bind_takenOver_iff (h : Reads which read comes) {β : Type} {k : α → Except LimitsError β}
    {other : LimitVariable} :
    takenOver (lookup which) read default >>= k = .error (.badVariable other value) ↔
      (other = which ∧ Refused lookup which value) ∨
        ∃ a, takenOver (lookup which) read default = .ok a ∧
          k a = .error (.badVariable other value) := by
  cases htaken : takenOver (lookup which) read default with
  | error cause =>
    obtain ⟨own, hrefused, rfl⟩ := h.takenOver_eq_error_iff.1 htaken
    constructor
    · rintro ⟨⟩
      exact .inl ⟨rfl, hrefused⟩
    · rintro (⟨rfl, hother⟩ | ⟨a, ha, -⟩)
      · rw [Option.some.inj (hother.set.symm.trans hrefused.set)]
        rfl
      · cases ha
  | ok a =>
    have hnot := (h.exists_takenOver_iff default).1 ⟨a, htaken⟩
    rw [or_iff_right fun hown => hnot value hown.2]
    exact ⟨fun hk => ⟨a, rfl, hk⟩, fun ⟨b, hb, hk⟩ => by cases hb; exact hk⟩

end Reads

/-- What comes out of the variables is validated at the end. -/
theorem bind_validate_eq (c : Limits) : (c.validate >>= fun _ => .ok c) =
    if c.maxSteps = 0 then .error (.invalid "max_steps must be at least 1")
    else if c.timeoutMs = some 0 then
      .error (.invalid "timeout_ms must be positive, use no timeout to disable")
    else .ok c := by
  unfold validate
  split
  · rfl
  · split
    · rfl
    · rfl

/-- **The first variable that is refused is the error,** whatever later ones hold. -/
theorem override_bad_iff (l : Limits) :
    l.override lookup = .error (.badVariable which value) ↔
      Refused lookup which value ∧ ∀ other ∈ which.earlier, ∀ text, ¬Refused lookup other text := by
  have hend (c : Limits) :
      (c.validate >>= fun _ => .ok c) ≠ .error (.badVariable which value) := by
    rw [bind_validate_eq]
    split
    · nofun
    · split <;> nofun
  rw [override_eq]
  simp only [reads_stepsOf.bind_takenOver_iff, reads_secondsOf.bind_takenOver_iff,
    reads_millisOf.bind_takenOver_iff, hend, and_false, exists_false, or_false, exists_and_right,
    reads_stepsOf.exists_takenOver_iff, reads_secondsOf.exists_takenOver_iff]
  cases which <;> simp [LimitVariable.earlier, and_comm, and_left_comm]

/-- The limits that are asked for are those that reading the variables in their order comes to. -/
theorem resolves_iff_takenOver {l c : Limits}
    (hseconds : ∀ value, ¬Refused lookup .timeoutSecs value) :
    l.Resolves lookup c ↔
      takenOver (lookup .maxSteps) stepsOf l.maxSteps = .ok c.maxSteps ∧
        ∃ budget, takenOver (lookup .timeoutSecs) secondsOf l.timeoutMs = .ok budget ∧
          takenOver (lookup .timeoutMs) (budgetOf .timeoutMs) budget = .ok c.timeoutMs := by
  obtain ⟨budget, hbudget⟩ := (reads_secondsOf.exists_takenOver_iff l.timeoutMs).2 hseconds
  have hcomes := reads_secondsOf.takenOver_eq_ok_iff.1 hbudget
  simp only [hbudget, Except.ok.injEq, exists_eq_left']
  rw [resolves_iff, reads_stepsOf.takenOver_eq_ok_iff, reads_millisOf.takenOver_eq_ok_iff]
  refine and_congr_right fun _ => ?_
  cases lookup .timeoutMs with
  | some value => rfl
  | none =>
    cases hset : lookup .timeoutSecs with
    | none =>
      rw [hset] at hcomes
      rw [hcomes]
    | some value =>
      rw [hset] at hcomes
      obtain ⟨asked, hasked, rfl⟩ := hcomes
      simp only [← eq_map_millisOfSeconds_iff]
      constructor
      · rintro ⟨asked', hasked', hc⟩
        rw [hc, hasked.unique hasked']
      · intro hc
        exact ⟨asked, hasked, hc⟩

/-- Where the limits are resolved, the limit on steps was not refused. -/
theorem Resolves.not_refused {l c : Limits} (h : l.Resolves lookup c) (text : String) :
    ¬Refused lookup .maxSteps text := by
  intro hrefused
  have hsteps := h.steps
  rw [hrefused.set] at hsteps
  exact hrefused.senseless _ hsteps

/-- **The budget in seconds is of no account beside one in milliseconds,** if it can be read. -/
theorem override_unset_seconds {l : Limits} (hseconds : ∀ text, ¬Refused lookup .timeoutSecs text)
    (hset : lookup .timeoutMs = some value) :
    l.override (Function.update lookup .timeoutSecs none) = l.override lookup := by
  have hsteps : Function.update lookup .timeoutSecs none .maxSteps = lookup .maxSteps :=
    Function.update_of_ne (by decide) _ _
  have hmillis : Function.update lookup .timeoutSecs none .timeoutMs = lookup .timeoutMs :=
    Function.update_of_ne (by decide) _ _
  obtain ⟨budget, hbudget⟩ := (reads_secondsOf.exists_takenOver_iff l.timeoutMs).2 hseconds
  rw [override_eq, override_eq, hsteps, hmillis, Function.update_self, hset, hbudget]
  rfl

/-- Where every variable can be read, what they ask for is validated. -/
theorem override_of_readable {l : Limits} (hreadable : ∀ which value, ¬Refused lookup which value) :
    ∃ c, l.Resolves lookup c ∧ (∀ c', l.Resolves lookup c' → c' = c) ∧
      l.override lookup =
        if c.maxSteps = 0 then .error (.invalid "max_steps must be at least 1")
        else if c.timeoutMs = some 0 then
          .error (.invalid "timeout_ms must be positive, use no timeout to disable")
        else .ok c := by
  obtain ⟨steps, hsteps⟩ :=
    (reads_stepsOf.exists_takenOver_iff l.maxSteps).2 (hreadable .maxSteps)
  obtain ⟨seconds, hseconds⟩ :=
    (reads_secondsOf.exists_takenOver_iff l.timeoutMs).2 (hreadable .timeoutSecs)
  obtain ⟨budget, hbudget⟩ :=
    (reads_millisOf.exists_takenOver_iff seconds).2 (hreadable .timeoutMs)
  have hresolves (c : Limits) : l.Resolves lookup c ↔ c = ⟨steps, budget⟩ := by
    rw [resolves_iff_takenOver (hreadable .timeoutSecs), hsteps]
    simp only [hseconds, Except.ok.injEq, exists_eq_left', hbudget]
    cases c
    rw [mk.injEq, eq_comm, @eq_comm _ budget]
  refine ⟨⟨steps, budget⟩, (hresolves _).2 rfl, fun c' => (hresolves c').1, ?_⟩
  rw [override_eq, hsteps, ← bind_validate_eq]
  dsimp only [bind, Except.bind]
  rw [hseconds]
  dsimp only
  rw [hbudget]

/-- What comes out has passed validation. -/
theorem validate_of_override {l c : Limits} (h : l.override lookup = .ok c) :
    c.validate = .ok () := by
  rw [override_eq] at h
  obtain ⟨steps, -, h⟩ := bind_eq_ok.1 h
  obtain ⟨seconds, -, h⟩ := bind_eq_ok.1 h
  obtain ⟨budget, -, h⟩ := bind_eq_ok.1 h
  obtain ⟨passed, hpassed, h⟩ := bind_eq_ok.1 h
  cases h
  exact hpassed

end Limits

/-- Limits that pass validation are no reason to refuse a run. -/
theorem Operator.preflight_ne_limits {σ μ : Type} {op : Operator σ μ}
    (h : op.limits.validate = .ok ()) (a : Alignment) (cause : LimitsError) :
    op.preflight a ≠ .error (.limits cause) := by
  intro hrefused
  cases hvalid : a.validate op.foundry with
  | ok valid =>
    obtain ⟨place, hplace⟩ := Operator.preflight_ok_iff.2 ⟨h, hvalid⟩
    rw [hrefused] at hplace
    cases hplace
  | error fault =>
    rw [Operator.preflight_validate h hvalid] at hrefused
    cases hrefused
    obtain ⟨_, hfault⟩ | ⟨_, _, hfault⟩ := Alignment.validate_error hvalid <;> cases hfault

namespace Limits

/-- **What variables make of limits.**  In this order:

* the first variable that is set and asks for nothing is the error, whatever later ones hold;
* no steps, or no milliseconds, are invalid;
* otherwise the limits that the variables ask for come out.

What comes out is valid, so no run is refused for its limits.  Zero seconds beside a budget in
milliseconds do no harm. -/
theorem override_resolves (l : Limits) (lookup : LimitVariable → Option String) :
    (∀ which value, l.override lookup = .error (.badVariable which value) ↔
      Refused lookup which value ∧
        ∀ other ∈ which.earlier, ∀ text, ¬Refused lookup other text) ∧
    ((∀ which value, ¬Refused lookup which value) →
      ∃ c, l.Resolves lookup c ∧ (∀ c', l.Resolves lookup c' → c' = c) ∧
        l.override lookup =
          if c.maxSteps = 0 then .error (.invalid "max_steps must be at least 1")
          else if c.timeoutMs = some 0 then
            .error (.invalid "timeout_ms must be positive, use no timeout to disable")
          else .ok c) ∧
    (∀ c, l.override lookup = .ok c → c.validate = .ok () ∧
      ∀ (σ μ : Type) (op : Operator σ μ) (a : Alignment) (cause : LimitsError), op.limits = c →
        op.preflight a ≠ .error (.limits cause)) ∧
    (∀ secs ms, lookup .timeoutSecs = some secs → Asks .timeoutSecs secs (some 0) →
      lookup .timeoutMs = some ms →
        l.override lookup = l.override (Function.update lookup .timeoutSecs none) ∧
        ∀ budget c, Asks .timeoutMs ms budget → budget ≠ some 0 → l.Resolves lookup c →
          c.maxSteps ≠ 0 → c.timeoutMs = budget ∧ l.override lookup = .ok c) := by
  refine ⟨fun _ _ => override_bad_iff l, override_of_readable, ?valid, ?harmless⟩
  case valid =>
    intro c hc
    have hvalid := validate_of_override hc
    refine ⟨hvalid, ?_⟩
    rintro σ μ op a cause rfl
    exact op.preflight_ne_limits hvalid a cause
  case harmless =>
    intro secs ms hsecs hzero hms
    have hseconds := hzero.not_refused hsecs
    refine ⟨(override_unset_seconds hseconds hms).symm, ?_⟩
    intro budget c hbudget hpositive hc hsteps
    have hreadable : ∀ which text, ¬Refused lookup which text
      | .maxSteps => hc.not_refused
      | .timeoutSecs => hseconds
      | .timeoutMs => hbudget.not_refused hms
    obtain ⟨c', -, hunique, heq⟩ := override_of_readable (l := l) hreadable
    obtain rfl : c = c' := hunique c hc
    have hmillis : c.timeoutMs = budget := by
      have hasked := hc.budget
      rw [hms] at hasked
      exact hasked.unique hbudget
    rw [heq, if_neg hsteps, hmillis, if_neg hpositive]
    exact ⟨rfl, rfl⟩

end Limits
end ApparatusGraph
