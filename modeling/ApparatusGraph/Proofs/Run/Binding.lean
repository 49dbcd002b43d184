/-
# Binding an order

A run begins with the visit of its ingress, which binds the order to registers: its text to
one address, and its files to a list of addresses, one by one as far as both go.  Addresses
may coincide.  The text is written first and the files in order, so

| an address that is bound to | holds |
| --- | --- |
| files | the last of them |
| the text alone | the text |
| neither | nothing |

(`Ingress.Holds`).  The step of the visit records what the registers hold then, although it
is put together apart from them, and what is left over of files or of addresses changes
neither.  A run visits its ingress once, before anything else, so this is what the first
step of every run says (`Reaches.binds`).
-/

import Mathlib.Order.Bounds.Defs
import ApparatusGraph.Proofs.Registers
import ApparatusGraph.Proofs.Run.Path

namespace ApparatusGraph

variable {σ μ : Type}

namespace Ingress

/-- An ingress binds the file at a position of an order to an address. -/
def BindsFile (i : Ingress) (o : Order) (address : Address) (k : Nat) : Prop :=
  k < min i.fileAddrs.length o.files.length ∧ i.fileAddrs[k]? = some address

/-- What registers hold at an address after an ingress has bound an order to them. -/
inductive Holds (i : Ingress) (o : Order) (r : Registers) (address : Address) : Prop where
  | file {k file} (last : IsGreatest {k | i.BindsFile o address k} k)
      (attached : o.files[k]? = some file)
      (read : r.read address = some ⟨.file file, .file "order attachment"⟩)
  | text (noFile : ∀ k, ¬i.BindsFile o address k) (own : address = i.promptAddr)
      (read : r.read address = some ⟨.text o.text, .text "order prompt"⟩)
  | nothing (noFile : ∀ k, ¬i.BindsFile o address k) (other : address ≠ i.promptAddr)
      (read : r.read address = none)

/-- An ingress has bound an order to registers that held nothing. -/
structure Binds (i : Ingress) (o : Order) (r : Registers) : Prop where
  holds : ∀ address, i.Holds o r address
  writes : r.writes = 1 + min i.fileAddrs.length o.files.length

/-- The writes of the files of an order. -/
def fileWrites (i : Ingress) (o : Order) : List (Address × Param) :=
  (i.fileAddrs.zip o.files).map fun (address, file) =>
    (address, ⟨.file file, .file "order attachment"⟩)

/-- The writes of an ingress are that of the text and those of the files. -/
theorem writes_eq (i : Ingress) (o : Order) :
    i.writes o = (i.promptAddr, ⟨.text o.text, .text "order prompt"⟩) :: i.fileWrites o := rfl

/-- As many files are written as there are both files and addresses. -/
theorem length_fileWrites (i : Ingress) (o : Order) :
    (i.fileWrites o).length = min i.fileAddrs.length o.files.length := by
  unfold fileWrites
  rw [List.length_map, List.length_zip]

/-- The write at a position is of the file there to the address there. -/
theorem getElem?_fileWrites {i : Ingress} {o : Order} {k : Nat} {address : Address} {p : Param} :
    (i.fileWrites o)[k]? = some (address, p) ↔ i.fileAddrs[k]? = some address ∧
      ∃ file, o.files[k]? = some file ∧ p = ⟨.file file, .file "order attachment"⟩ := by
  unfold fileWrites
  rw [List.getElem?_map, Option.map_eq_some_iff]
  constructor
  · rintro ⟨⟨own, file⟩, hzip, heq⟩
    obtain ⟨hown, hfile⟩ := List.getElem?_zip_eq_some.1 hzip
    obtain ⟨rfl, rfl⟩ := Prod.mk.inj heq
    exact ⟨hown, file, hfile, rfl⟩
  · rintro ⟨hown, file, hfile, rfl⟩
    exact ⟨(address, file), List.getElem?_zip_eq_some.2 ⟨hown, hfile⟩, rfl⟩

/-- A file is bound to an address where there is a write to it. -/
theorem bindsFile_iff {i : Ingress} {o : Order} {address : Address} {k : Nat} :
    i.BindsFile o address k ↔ ∃ p, (i.fileWrites o)[k]? = some (address, p) := by
  constructor
  · rintro ⟨hlt, hown⟩
    have hfile : k < o.files.length := Nat.lt_of_lt_of_le hlt (Nat.min_le_right _ _)
    exact ⟨_, getElem?_fileWrites.2 ⟨hown, _, List.getElem?_eq_getElem hfile, rfl⟩⟩
  · rintro ⟨p, hwrite⟩
    obtain ⟨hlt, -⟩ := List.getElem?_eq_some_iff.1 hwrite
    rw [length_fileWrites] at hlt
    exact ⟨hlt, (getElem?_fileWrites.1 hwrite).1⟩

/-- **The last file counts, and before it the text.** -/
theorem holds_writeAll (i : Ingress) (o : Order) (address : Address) :
    i.Holds o (({} : Registers).writeAll (i.writes o)) address := by
  have hread : (({} : Registers).writeAll (i.writes o)).read address =
      ((i.fileWrites o).reverse.lookup address).or
        (if address = i.promptAddr then some ⟨.text o.text, .text "order prompt"⟩ else none) := by
    rw [Registers.read_writeAll, writes_eq, List.reverse_cons, List.lookup_append, List.lookup_cons,
      List.lookup_nil]
    show Option.or _ none = _
    rw [Option.or_none]
    by_cases hown : address = i.promptAddr
    · rw [if_pos hown, hown, beq_self_eq_true]
    · rw [if_neg hown, beq_false_of_ne hown]
  obtain ⟨before, p, after, hwrites, hafter, hlookup⟩ | ⟨habsent, hlookup⟩ :=
    Named.lookup_reverse_cases (i.fileWrites o) address
  · have hlast : (i.fileWrites o)[before.length]? = some (address, p) := by
      rw [hwrites, List.getElem?_append_right (Nat.le_refl _), Nat.sub_self]
      rfl
    obtain ⟨-, file, hfile, rfl⟩ := getElem?_fileWrites.1 hlast
    refine .file ⟨bindsFile_iff.2 ⟨_, hlast⟩, fun k hk => ?_⟩ hfile (by rw [hread, hlookup]; rfl)
    -- A write to the address further on would be among those after the last.
    obtain ⟨q, hq⟩ := bindsFile_iff.1 hk
    refine Nat.le_of_not_lt fun hlt => ?_
    obtain ⟨j, rfl⟩ : ∃ j, k = before.length + (j + 1) := ⟨k - before.length - 1, by omega⟩
    rw [hwrites, List.getElem?_append_right (Nat.le_add_right _ _), Nat.add_sub_cancel_left,
      List.getElem?_cons_succ] at hq
    exact hafter _ (List.mem_of_getElem? hq) rfl
  · have hnone (k : Nat) : ¬i.BindsFile o address k := fun hk => by
      obtain ⟨q, hq⟩ := bindsFile_iff.1 hk
      exact habsent _ (List.mem_of_getElem? hq) rfl
    rw [hlookup, Option.none_or] at hread
    by_cases hown : address = i.promptAddr
    · exact .text hnone hown (by rw [hread, if_pos hown])
    · exact .nothing hnone hown (by rw [hread, if_neg hown])

/-- The writes of an ingress to empty registers bind the order. -/
theorem binds_writeAll (i : Ingress) (o : Order) :
    i.Binds o (({} : Registers).writeAll (i.writes o)) := by
  refine ⟨i.holds_writeAll o, ?_⟩
  rw [Registers.writes_writeAll, writes_eq, List.length_cons, length_fileWrites]
  show 0 + _ = _
  omega

/-- What a visit records is what it leaves in registers that held nothing. -/
theorem ofList_writes (i : Ingress) (o : Order) :
    Named.ofList (i.writes o) = (({} : Registers).writeAll (i.writes o)).slots :=
  (Registers.slots_writeAll {} (i.writes o)).symm

/-! ## What is left over -/

/-- Files beyond the addresses are not written. -/
theorem writes_take_files (i : Ingress) (o : Order) :
    i.writes { o with files := o.files.take i.fileAddrs.length } = i.writes o := by
  rw [writes_eq, writes_eq]
  unfold fileWrites
  dsimp only
  rw [@List.zip_eq_zip_take_min _ _ i.fileAddrs o.files, List.zip_eq_zip_take_min,
    List.length_take, List.take_take, ← Nat.min_assoc, Nat.min_self]
  congr 4
  omega

/-- Addresses beyond the files are not written to. -/
theorem writes_take_addresses (i : Ingress) (o : Order) :
    { i with fileAddrs := i.fileAddrs.take o.files.length }.writes o = i.writes o := by
  rw [writes_eq, writes_eq]
  unfold fileWrites
  dsimp only
  rw [@List.zip_eq_zip_take_min _ _ i.fileAddrs o.files, List.zip_eq_zip_take_min,
    List.length_take, List.take_take]
  congr 4
  · omega
  · omega

/-! ## Visits -/

/-- The visit of an ingress makes its writes, wherever it leads. -/
theorem visit_registers (i : Ingress) (a : Alignment) (o : Order) (r : Registers) :
    (i.visit a o r).2 = r.writeAll (i.writes o) := by
  unfold visit
  dsimp only
  split
  · rfl
  · rfl

/-- A complete visit of an ingress has no inputs, and its outputs are its writes. -/
theorem visit_ok {i : Ingress} {a : Alignment} {o : Order} {r : Registers} {v : Visit a}
    (h : (i.visit a o r).1 = .ok v) : v.inputs = ∅ ∧ v.outputs = Named.ofList (i.writes o) := by
  unfold visit at h
  dsimp only at h
  split at h
  · cases h
  · cases h
    exact ⟨rfl, rfl⟩

/-- A visit depends on an ingress and an order by where it goes on and by what it writes. -/
theorem visit_congr {i j : Ingress} {o o' : Order}
    (hwrites : i.writes o = j.writes o') (hnext : i.next = j.next) (a : Alignment) (r : Registers) :
    i.visit a o r = j.visit a o' r := by
  unfold visit
  rw [hnext, hwrites]

end Ingress

namespace Operator

variable {op : Operator σ μ} {a : Alignment} {order : Order} {runId : RunId} {s : Session σ μ}
  {steps : List Step}

/-- A trail that is not empty begins with a turn that goes on. -/
theorem Trail.first {e : Errand} {st st' : Stand σ μ a} (h : op.Trail a e st steps st')
    (hne : steps ≠ []) :
    ∃ step place p s', steps.head? = some step ∧
      op.turn a e st = .completed step (.next place) p s' := by
  induction h with
  | entry => exact absurd rfl hne
  | @onward steps st' step place p s' trail turn ih =>
    cases trail with
    | entry => exact ⟨step, place, p, s', rfl, turn⟩
    | onward trail earlier =>
      obtain ⟨first, place, p, s', hfirst, hturn⟩ :=
        ih (List.append_ne_nil_of_right_ne_nil _ (List.cons_ne_nil _ _))
      rw [List.head?_append, hfirst]
      exact ⟨first, place, p, s', rfl, hturn⟩

/-- A turn at the ingress goes on with the order bound, and its step says so. -/
theorem turn_completed_binds {e : Errand} {st : Stand σ μ a} {step : Step} {onward : Onward a}
    {p : Progress} {s' : Session σ μ} {i : Ingress} (hsound : a.Sound op.foundry)
    (hi : a.node st.place = .ingress i) (hempty : st.progress.registers = {})
    (hturn : op.turn a e st = .completed step onward p s') :
    i.Binds e.order p.registers ∧ step.outputs = p.registers.slots := by
  obtain ⟨admitted, v, registers, after, hcheck, hvisit, rfl, -, rfl, -⟩ := turn_completed hturn
  obtain ⟨-, -, rfl⟩ := checkpoint_ok hcheck
  have hcompletes := hvisit.completes hsound (a.node_mem st.place)
  have hregisters : registers = ({} : Registers).writeAll (i.writes e.order) := by
    rw [hcompletes.registers, hi]
    show st.progress.registers.writeAll _ = _
    rw [hempty]
    rfl
  have houtputs : v.outputs = Named.ofList (i.writes e.order) := hcompletes.bound i hi
  subst hregisters
  exact ⟨i.binds_writeAll e.order, houtputs.trans (i.ofList_writes e.order)⟩

/-- The ingress of a run has bound the order once the first of its steps is made. -/
def Bound (op : Operator σ μ) (a : Alignment) (order : Order) (runId : RunId) (s : Session σ μ)
    (steps : List Step) : Prop :=
  ∃ i step st, .ingress i ∈ a.operations ∧ steps.head? = some step ∧
    op.Reaches a order runId s [step] st ∧ i.Binds order st.progress.registers ∧
    step.outputs = st.progress.registers.slots

/-- **The first visit binds the order.** -/
theorem Reaches.bound {st : Stand σ μ a} (h : op.Reaches a order runId s steps st)
    (hne : steps ≠ []) : op.Bound a order runId s steps := by
  have hsound := h.sound
  obtain ⟨place, hpreflight, htrail⟩ := h
  obtain ⟨step, next, p, s', hfirst, hturn⟩ := htrail.first hne
  obtain ⟨i, hi⟩ := Alignment.node_of_entry (preflight_ok hpreflight).2.2
  obtain ⟨hbinds, houtputs⟩ := turn_completed_binds hsound hi rfl hturn
  exact ⟨i, step, ⟨next, p, op.emit step s'⟩, hi ▸ a.node_mem place, hfirst,
    ⟨place, hpreflight, .onward .entry hturn⟩, hbinds, houtputs⟩

/-- A run that made a step has bound its order. -/
theorem Runs.bound {x : Report × Session σ μ} (h : op.Runs a order runId s steps x)
    (hne : steps ≠ []) : op.Bound a order runId s steps := by
  cases h with
  | refused preflight => exact absurd rfl hne
  | stopped reach check => exact reach.bound hne
  | failed reach check visit => exact reach.bound hne
  | @arrived before st step output p s' reach turn =>
    -- The last step is that of an egress, so there is one before it.
    have hbefore : before ≠ [] := by
      rintro rfl
      obtain ⟨x, hx⟩ := turn_completed_ends reach.sound turn
      obtain ⟨-, i, hi⟩ | ⟨hne, -⟩ := reach.node
      · rw [hi] at hx
        cases hx
      · exact hne rfl
    obtain ⟨i, first, mid, hi, hfirst, hreach, hbinds, houtputs⟩ := reach.bound hbefore
    refine ⟨i, first, mid, hi, ?_, hreach, hbinds, houtputs⟩
    rw [List.head?_append, hfirst]
    rfl

/-- **The order is bound by position.**  Whether the place that an ingress leads to exists or not,
its visit binds the order to registers that held nothing, and the outputs of a complete visit are
these registers; files without an address and addresses without a file make no difference.  A run
that has visited anything has visited its ingress first, so the first step of its transcript records
what its registers held then.  The steps are those of a transcript of the run, whatever its own
medium is. -/
theorem ingress_binds_order (op : Operator σ μ) (a : Alignment) (o : Order) (runId : RunId)
    (s : Session σ μ) :
    (∀ i : Ingress,
      let visited := i.visit a o {}
      i.Binds o visited.2 ∧
      (∀ v, visited.1 = .ok v → v.inputs = ∅ ∧ v.outputs = visited.2.slots) ∧
      (∀ r, i.visit a { o with files := o.files.take i.fileAddrs.length } r = i.visit a o r) ∧
      ∀ r, { i with fileAddrs := i.fileAddrs.take o.files.length }.visit a o r = i.visit a o r) ∧
    let report := (op.run a o runId s).1
    let steps := (op.transcribed.run a o runId (s.keeping #[])).2.kept.toList
    report.visited ≠ [] → op.transcribed.Bound a o runId (s.keeping #[]) steps := by
  refine ⟨fun i => ?_, ?_⟩
  · dsimp only
    rw [i.visit_registers]
    refine ⟨i.binds_writeAll o, fun v hv => ?_, ?_, ?_⟩
    · obtain ⟨hinputs, houtputs⟩ := Ingress.visit_ok hv
      exact ⟨hinputs, houtputs.trans (i.ofList_writes o)⟩
    · exact Ingress.visit_congr (i.writes_take_files o) rfl a
    · exact Ingress.visit_congr (i.writes_take_addresses o) rfl a
  · obtain ⟨hreport, -⟩ := op.run_transcribed a o runId s
    obtain ⟨steps, hruns⟩ := op.transcribed.exists_runs a o runId (s.keeping #[])
    dsimp only
    rw [hreport, hruns.kept_transcript, hruns.visited]
    intro hvisited
    refine hruns.bound ?_
    rintro rfl
    exact hvisited rfl

end Operator
end ApparatusGraph
