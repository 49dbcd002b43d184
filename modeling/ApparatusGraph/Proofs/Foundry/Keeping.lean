/-
# Keeping contracts

A contract stands beside the callable that it is about, and building an apparatus compares
neither with the other.  An apparatus over texts keeps its contracts when they do agree
(`Apparatus.KeepsContracts`):

* its call succeeds when the vars that the input contract asks for hold texts
* the record of the call has the vars of the output contract, of a switcher that of its verdict,
  each of the declared type

Nodes whose outputs their apparatus declare lack none of them then, so no run over such a
foundry ends for want of an output (`Operator.not_missingOutput`).
-/

import ApparatusGraph.Proofs.Foundry.Building
import ApparatusGraph.Proofs.Run.Outcome

namespace ApparatusGraph

variable {σ μ : Type}

/-! ## Records under contracts -/

/-- A record holds a text at a var. -/
def Record.HoldsText (input : Record) (var : Var) (s : String) : Prop :=
  ∃ p, input.get? var = some p ∧ p.value = .text s

/-- The texts of a record have a length of 63 bits, as they do in memory. -/
def Record.Measurable (input : Record) : Prop :=
  ∀ var s, input.HoldsText var s → s.length < 0x8000000000000000

/-- A record holds a text at every var that a contract asks for. -/
def Contract.TextGiven (c : Contract) (input : Record) : Prop :=
  ∀ var tag, c.get? var = some tag → tag.optional = false → ∃ s, input.HoldsText var s

/-- A record has exactly the vars of a contract, each tagged with its type and of its type. -/
structure Record.Fits (record : Record) (c : Contract) : Prop where
  tagged : record.map (·.tag.name) = c.map (·.name)
  typed : record.map (·.value.typeName) = c.map (·.name)

/-- Nothing is missing from a record that fits. -/
theorem Record.Fits.get?_ne_none {record : Record} {c : Contract} (h : record.Fits c) {var : Var}
    (hvar : c.contains var = true) : record.get? var ≠ none := by
  intro hnone
  have htag := congrArg (·.get? var) h.tagged
  simp only [Named.get?_map, hnone, Option.map_none] at htag
  rw [eq_comm, Option.map_eq_none_iff] at htag
  unfold Named.contains at hvar
  rw [htag] at hvar
  cases hvar

/-- A contract is asked about entry by entry. -/
theorem Contract.textGiven_iff {c : Contract} {input : Record} : c.TextGiven input ↔
    ∀ e ∈ c.entries, e.2.optional = false → ∃ s, input.HoldsText e.1 s :=
  ⟨fun h e he => h e.1 e.2 (Named.get?_eq_some_iff.2 he),
    fun h var tag htag => h (var, tag) (Named.get?_eq_some_iff.1 htag)⟩

/-! ## Apparatus under contracts -/

namespace Apparatus

/-- What an apparatus declares of its input. -/
def input : Apparatus σ → Contract
  | processor p => p.input
  | switcher w => w.input

/-- The call of an apparatus succeeds at a session with a record, for which it declares a
contract. -/
inductive Replies (deadline : Option Nat) (input : Record) (s s' : Session σ μ) :
    Apparatus σ → Contract → Record → Prop where
  | processor {p : Processor σ} {record}
      (replies : (p.process input).await deadline s = (.answered (.ok record), s')) :
      Replies deadline input s s' (.processor p) p.output record
  | switcher {w : Switcher σ} {verdict record}
      (replies : (w.check input).await deadline s = (.answered (.ok (verdict, record)), s')) :
      Replies deadline input s s' (.switcher w) (w.outputFor verdict) record

/-- The records of an apparatus fit the contracts that it declares for them. -/
def Fits (x : Apparatus σ) : Prop :=
  ∀ {μ : Type} {deadline : Option Nat} {s s' : Session σ μ} {input record : Record} {c : Contract},
    x.Replies deadline input s s' c record → record.Fits c

/-- An apparatus does what its contracts say, as long as what else it relies on is given. -/
structure KeepsContracts (x : Apparatus σ)
    (Given : {μ : Type} → Option Nat → Session σ μ → Record → Prop) : Prop where
  succeeds : ∀ {μ : Type} (deadline : Option Nat) (s : Session σ μ) (input : Record),
    input.Measurable → ((∃ s' c record, x.Replies deadline input s s' c record) ↔
      x.input.TextGiven input ∧ Given deadline s input)
  fits : x.Fits

/-- Nothing else is relied on. -/
def Always (_ : Option Nat) (_ : Session σ μ) (_ : Record) : Prop := True

/-- What an apparatus relies on may be said in other words. -/
theorem KeepsContracts.of_iff {x : Apparatus σ}
    {Given Given' : {μ : Type} → Option Nat → Session σ μ → Record → Prop}
    (h : x.KeepsContracts Given) (hgiven : ∀ {μ : Type} (deadline : Option Nat) (s : Session σ μ)
      (input : Record), Given deadline s input ↔ Given' deadline s input) :
    x.KeepsContracts Given' where
  succeeds := fun deadline s input hinput =>
    (h.succeeds deadline s input hinput).trans (and_congr_right fun _ => hgiven deadline s input)
  fits := h.fits

end Apparatus

/-- A processor that answers at once keeps its contracts if its answers do. -/
theorem Processor.keepsContracts {p : Processor σ} {g : Record → Except Failure Record}
    (hprocess : p.process = fun input => .answer (g input))
    (hsucceeds : ∀ input : Record, input.Measurable →
      ((∃ record, g input = .ok record) ↔ p.input.TextGiven input))
    (hfits : ∀ input record, g input = .ok record → record.Fits p.output) :
    (Apparatus.processor p).KeepsContracts Apparatus.Always where
  succeeds := fun deadline s input hinput => by
    show _ ↔ p.input.TextGiven input ∧ True
    rw [and_true, ← hsucceeds input hinput]
    constructor
    · rintro ⟨s', c, record, hreplies⟩
      cases hreplies with
      | processor hreplies =>
        rw [hprocess] at hreplies
        obtain ⟨hanswer, -⟩ := Prod.mk.inj hreplies
        exact ⟨record, Awaited.answered.inj hanswer⟩
    · rintro ⟨record, hanswer⟩
      refine ⟨s, p.output, record, .processor ?_⟩
      rw [hprocess]
      show (Awaited.answered (g input), s) = _
      rw [hanswer]
  fits := fun {_ _ _ _ input record _} hreplies => by
    cases hreplies with
    | processor hreplies =>
      rw [hprocess] at hreplies
      obtain ⟨hanswer, -⟩ := Prod.mk.inj hreplies
      exact hfits input record (Awaited.answered.inj hanswer)

/-- A switcher that answers at once keeps its contracts if its answers do. -/
theorem Switcher.keepsContracts {w : Switcher σ} {g : Record → Except Failure (Bool × Record)}
    (hcheck : w.check = fun input => .answer (g input))
    (hsucceeds : ∀ input : Record, input.Measurable →
      ((∃ answer, g input = .ok answer) ↔ w.input.TextGiven input))
    (hfits : ∀ input verdict record, g input = .ok (verdict, record) →
      record.Fits (w.outputFor verdict)) :
    (Apparatus.switcher w).KeepsContracts Apparatus.Always where
  succeeds := fun deadline s input hinput => by
    show _ ↔ w.input.TextGiven input ∧ True
    rw [and_true, ← hsucceeds input hinput]
    constructor
    · rintro ⟨s', c, record, hreplies⟩
      cases hreplies with
      | switcher hreplies =>
        rw [hcheck] at hreplies
        obtain ⟨hanswer, -⟩ := Prod.mk.inj hreplies
        exact ⟨_, Awaited.answered.inj hanswer⟩
    · rintro ⟨⟨verdict, record⟩, hanswer⟩
      refine ⟨s, w.outputFor verdict, record, .switcher ?_⟩
      rw [hcheck]
      show (Awaited.answered (g input), s) = _
      rw [hanswer]
  fits := fun {_ _ _ _ input record _} hreplies => by
    cases hreplies with
    | switcher hreplies =>
      rw [hcheck] at hreplies
      obtain ⟨hanswer, -⟩ := Prod.mk.inj hreplies
      exact hfits input _ record (Awaited.answered.inj hanswer)

/-- What fits on both branches fits under either verdict. -/
theorem Switcher.fits_outputFor {w : Switcher σ} {record : Record} {verdict : Bool}
    (htrue : record.Fits w.whenTrue) (hfalse : record.Fits w.whenFalse) :
    record.Fits (w.outputFor verdict) := by
  cases verdict with
  | true => exact htrue
  | false => exact hfalse

/-! ## Runs -/

/-- The outputs that nodes bind are declared, of a switch under the verdict that they are bound
for. -/
def Alignment.BindsDeclared (a : Alignment) (f : Foundry σ) : Prop :=
  ∀ n ∈ a.operations, ∀ branch var address, (n.sinks branch).get? var = some address →
    (n.outputContract f branch).contains var = true

/-- True if the outputs that a node binds under a verdict are declared. -/
def Node.declaresSinks (f : Foundry σ) (n : Node) (branch : Option Bool) : Bool :=
  (n.sinks branch).entries.all fun e => (n.outputContract f branch).contains e.1

/-- Nodes are asked about verdict by verdict and entry by entry. -/
theorem Alignment.bindsDeclared_iff {a : Alignment} {f : Foundry σ} : a.BindsDeclared f ↔
    (a.operations.all fun n => [none, some true, some false].all (n.declaresSinks f)) = true := by
  simp only [List.all_eq_true, Node.declaresSinks]
  constructor
  · intro h n hn branch _ e he
    exact h n hn branch e.1 e.2 (Named.get?_eq_some_iff.2 he)
  · intro h n hn branch var address hsink
    refine h n hn branch ?_ (var, address) (Named.get?_eq_some_iff.1 hsink)
    rcases branch with _ | _ | _ <;> decide

instance {a : Alignment} {f : Foundry σ} : Decidable (a.BindsDeclared f) :=
  decidable_of_iff _ Alignment.bindsDeclared_iff.symm

/-- What a node is replied fits the contract of its branch. -/
theorem Node.Replies.fits {f : Foundry σ} (hfits : ∀ name x, f.get? name = some x → x.Fits)
    {deadline : Option Nat} {input record : Record} {s s' : Session σ μ} {n : Node}
    {branch : Option Bool} (h : n.Replies f deadline input s s' branch record) :
    record.Fits (n.outputContract f branch) := by
  cases h with
  | @process p processor _ registered replies =>
    dsimp only [Node.outputContract]
    rw [registered]
    exact hfits _ _ (Foundry.processor?_eq_some.1 registered) (.processor replies)
  | @switch sw switcher verdict _ registered replies =>
    dsimp only [Node.outputContract]
    rw [registered]
    exact hfits _ _ (Foundry.switcher?_eq_some.1 registered) (.switcher replies)

/-- **No output is missing** over a foundry whose records fit, from nodes that bind what is
declared. -/
theorem Operator.not_missingOutput {op : Operator σ μ} {a : Alignment}
    (hfits : ∀ name x, op.foundry.get? name = some x → x.Fits)
    (hbinds : a.BindsDeclared op.foundry) (order : Order) (runId : RunId) (s : Session σ μ)
    (node : String) (var : Var) :
    (op.run a order runId s).1.outcome ≠ .error (.missingOutput node var) := by
  intro houtcome
  obtain ⟨steps, hruns⟩ := op.exists_runs a order runId s
  obtain ⟨n, st, -, -, rfl, homits⟩ := hruns.explained.missing node var houtcome
  obtain ⟨said, apparatus, input, s', branch, record, address, -, -, hreplies, hleast⟩ := homits
  exact (hreplies.fits hfits).get?_ne_none
    (hbinds _ (a.node_mem st.place) branch var address hleast.entry) hleast.holds.1

end ApparatusGraph
