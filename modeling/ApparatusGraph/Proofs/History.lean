/-
# What registers tell of their history

A history is a sequence of writes, made one after the other to registers that hold nothing.
What the registers tell afterwards is said here without them (`Registers.Tells`):

| asked of the registers | answer |
| --- | --- |
| what an address holds | what the last write to it wrote (`LastWrite`), or nothing |
| how many are bound | the number of distinct addresses that were written |
| how many writes there were | the length of the history |
| which are bound | each once, in strictly increasing order of code points |

What a write gives back is what its address held after the part of the history before it
(`Registers.answer_split`).  Of a history the slots keep the last writes and nothing else, so two
histories leave the same slots exactly when their last writes are the same
(`Registers.slots_eq_iff`).
-/

import Mathlib.Data.Finset.Card
import ApparatusGraph.Proofs.Registers

namespace ApparatusGraph

/-! ## The order of code points -/

/-- The code points of a text, in order. -/
def codePoints (s : String) : List Nat := s.toList.map Char.toNat

/-- Texts are ordered by their code points, as sequences. -/
theorem codePoints_lt_iff {s t : String} : codePoints s < codePoints t ↔ s < t := by
  rw [String.lt_iff]
  unfold codePoints
  generalize s.toList = l
  generalize t.toList = m
  -- Both orders go by the first place at which the sequences differ.
  induction l generalizing m with
  | nil => cases m <;> simp
  | cons c l ih =>
    cases m with
    | nil => simp
    | cons d m =>
      rw [List.map_cons, List.map_cons, List.cons_lt_cons_iff, List.cons_lt_cons_iff, ih,
        Char.toNat_inj]
      exact Iff.rfl

/-! ## Histories -/

/-- Writes one after the other, the earliest first. -/
abbrev History := List (Address × Param)

/-- The last write of a history to an address is of a param. -/
def LastWrite (ws : History) (address : Address) (p : Param) : Prop :=
  ∃ before after, ws = before ++ (address, p) :: after ∧ ∀ w ∈ after, w.1 ≠ address

/-- From the end of a history the first write to an address is the last one. -/
theorem lookup_reverse_eq_some_iff {ws : History} {address : Address} {p : Param} :
    ws.reverse.lookup address = some p ↔ LastWrite ws address p := by
  constructor
  · intro h
    obtain ⟨before, q, after, heq, hafter, hlookup⟩ | ⟨-, hlookup⟩ :=
      Named.lookup_reverse_cases ws address
    · rw [h] at hlookup
      obtain rfl := Option.some.inj hlookup
      exact ⟨before, after, heq, hafter⟩
    · rw [h] at hlookup
      cases hlookup
  · rintro ⟨before, after, rfl, hafter⟩
    -- Seen from the end, the writes that follow the last one come first, and none is to the address.
    have hnone : after.reverse.lookup address = none :=
      List.lookup_eq_none_iff.2 fun w hw =>
        bne_iff_ne.2 (hafter w (List.mem_reverse.1 hw)).symm
    rw [List.reverse_append, List.reverse_cons, List.append_assoc, List.lookup_append, hnone,
      Option.none_or, List.singleton_append, List.lookup_cons_self]

/-- From the end of a history nothing is found at an address that was not written to. -/
theorem lookup_reverse_eq_none_iff {ws : History} {address : Address} :
    ws.reverse.lookup address = none ↔ ∀ w ∈ ws, w.1 ≠ address := by
  rw [List.lookup_eq_none_iff]
  constructor
  · intro h w hw
    exact (bne_iff_ne.1 (h w (List.mem_reverse.2 hw))).symm
  · intro h w hw
    exact bne_iff_ne.2 (h w (List.mem_reverse.1 hw)).symm

namespace Registers

/-! ## Registers at any time -/

/-- A list of exactly the bound registers, in strictly increasing order of the code points of their
addresses. -/
structure Listing (r : Registers) (l : List (Address × Param)) : Prop where
  increasing : (l.map fun e => codePoints e.1).Pairwise (· < ·)
  mem_iff : ∀ address p, (address, p) ∈ l ↔ r.read address = some p

/-- Addresses increase as their code points do. -/
theorem pairwise_codePoints_iff {l : List (Address × Param)} :
    (l.map fun e => codePoints e.1).Pairwise (· < ·) ↔ (l.map (·.1)).Pairwise (· < ·) := by
  rw [List.pairwise_map, List.pairwise_map]
  simp only [codePoints_lt_iff]

/-- **There is one listing of registers:** the bound ones as they stand. -/
theorem bound_eq_iff {r : Registers} {l : List (Address × Param)} : r.bound = l ↔ r.Listing l := by
  constructor
  · rintro rfl
    exact ⟨pairwise_codePoints_iff.2 r.slots.increasing,
      fun address p => Named.get?_eq_some_iff.symm⟩
  · intro h
    refine Named.eq_of_mem_iff r.slots.increasing (pairwise_codePoints_iff.1 h.increasing) ?_
    rintro ⟨address, p⟩
    rw [h.mem_iff]
    exact Named.get?_eq_some_iff.symm

/-- The bound registers are those that hold something. -/
theorem mem_names_iff {r : Registers} {address : Address} :
    address ∈ r.slots.names ↔ r.read address ≠ none := by
  unfold Named.names
  rw [Option.ne_none_iff_exists', List.mem_map]
  constructor
  · rintro ⟨⟨_, p⟩, hmem, rfl⟩
    exact ⟨p, Named.get?_eq_some_iff.2 hmem⟩
  · rintro ⟨p, hp⟩
    exact ⟨(address, p), Named.get?_eq_some_iff.1 hp, rfl⟩

/-- The size counts each address once that is not unbound. -/
theorem size_eq_card {r : Registers} {addresses : List Address}
    (h : ∀ address, r.read address ≠ none ↔ address ∈ addresses) :
    r.size = addresses.toFinset.card := by
  have hnames : r.slots.names.toFinset = addresses.toFinset := by
    ext address
    rw [List.mem_toFinset, List.mem_toFinset, mem_names_iff, h]
  calc r.size = r.slots.names.length := (List.length_map _).symm
    _ = r.slots.names.toFinset.card := (List.toFinset_card_of_nodup r.slots.nodup_names).symm
    _ = addresses.toFinset.card := by rw [hnames]

/-- No register is bound when the number of bound registers is zero. -/
theorem isEmpty_iff {r : Registers} : r.isEmpty = true ↔ r.size = 0 :=
  List.isEmpty_iff.trans List.length_eq_zero_iff.symm

/-! ## Registers after a history -/

/-- Makes the writes of a history, and gives back what each of them gave back. -/
def exchangeAll (r : Registers) : History → List (Option Param) × Registers
  | [] => ([], r)
  | (address, p) :: rest =>
    let (old, next) := r.exchange address p
    let (olds, last) := next.exchangeAll rest
    (old :: olds, last)

/-- Exchanges after one another answer as one history. -/
theorem exchangeAll_append (r : Registers) (before after : History) :
    r.exchangeAll (before ++ after) =
      ((r.exchangeAll before).1 ++ ((r.exchangeAll before).2.exchangeAll after).1,
        ((r.exchangeAll before).2.exchangeAll after).2) := by
  induction before generalizing r with
  | nil => rfl
  | cons w rest ih =>
    simp only [List.cons_append, exchangeAll, ih]

/-- Each exchange answers once. -/
theorem length_exchangeAll (r : Registers) (ws : History) :
    (r.exchangeAll ws).1.length = ws.length := by
  induction ws generalizing r with
  | nil => rfl
  | cons w rest ih => exact congrArg (· + 1) (ih (r.write w.1 w.2))

/-- Exchanges write what writes in a row do. -/
theorem exchangeAll_registers (r : Registers) (ws : History) :
    (r.exchangeAll ws).2 = r.writeAll ws := by
  induction ws generalizing r with
  | nil => rfl
  | cons w rest ih => exact ih (r.write w.1 w.2)

/-- A write gives back what its address held when it was made. -/
theorem answer_split (r : Registers) (before : History) (address : Address) (p : Param)
    (after : History) :
    (r.exchangeAll (before ++ (address, p) :: after)).1[before.length]? =
      some ((r.exchangeAll before).2.read address) := by
  have hlength := length_exchangeAll r before
  rw [exchangeAll_append, List.getElem?_append_right hlength.le, hlength, Nat.sub_self]
  rfl

/-- The registers after a history. -/
def after (ws : History) : Registers := (({} : Registers).exchangeAll ws).2

/-- What the writes of a history gave back, one by one. -/
def answers (ws : History) : List (Option Param) := (({} : Registers).exchangeAll ws).1

/-- What a register holds after a history is what its last write wrote. -/
theorem read_after (ws : History) (address : Address) :
    (after ws).read address = ws.reverse.lookup address := by
  unfold after
  rw [exchangeAll_registers, read_writeAll]
  exact Option.or_none

/-- **The slots keep the last writes and nothing else.** -/
theorem slots_eq_iff {ws ws' : History} :
    (after ws').slots = (after ws).slots ↔
      ∀ address p, LastWrite ws' address p ↔ LastWrite ws address p := by
  have hlookup (address : Address) (p : Param) :
      (LastWrite ws' address p ↔ LastWrite ws address p) ↔
        ((after ws').read address = some p ↔ (after ws).read address = some p) := by
    rw [← lookup_reverse_eq_some_iff, ← lookup_reverse_eq_some_iff, read_after, read_after]
  simp only [hlookup]
  constructor
  · intro heq address p
    unfold read
    rw [heq]
  · intro h
    exact Named.ext_get? fun address => Option.ext (h address)

/-- What registers tell of the history that they were written by. -/
structure Tells (r : Registers) (ws : History) : Prop where
  written : ∀ address p, r.read address = some p ↔ LastWrite ws address p
  unwritten : ∀ address, r.read address = none ↔ ∀ w ∈ ws, w.1 ≠ address
  isBound : ∀ address, r.isBound address = (r.read address).isSome
  size : r.size = (ws.map (·.1)).toFinset.card
  isEmpty : r.isEmpty = true ↔ r.size = 0
  writes : r.writes = ws.length
  bound : ∀ l, r.bound = l ↔ r.Listing l

/-- The registers after a history tell of it what is to be told. -/
theorem tells_after (ws : History) : (after ws).Tells ws where
  written address p := by rw [read_after, lookup_reverse_eq_some_iff]
  unwritten address := by rw [read_after, lookup_reverse_eq_none_iff]
  isBound address := rfl
  size := by
    refine size_eq_card fun address => ?_
    rw [read_after, ne_eq, lookup_reverse_eq_none_iff, List.mem_map]
    simp only [ne_eq, not_forall, not_not, exists_prop]
  isEmpty := isEmpty_iff
  writes := by
    unfold after
    rw [exchangeAll_registers, writes_writeAll]
    exact Nat.zero_add _
  bound l := bound_eq_iff

/-- **Registers tell the last writes of their history, in the order of addresses.**  They tell what
was written last to each address, how many addresses were written, how many writes there were,
and which registers are bound; each write has given back what its address held before it; and
histories with the same last writes leave the same slots, and no others do. -/
theorem history_told (ws : History) :
    (after ws).Tells ws ∧
    (answers ws).length = ws.length ∧
    (∀ before address p rest, ws = before ++ (address, p) :: rest →
      (answers ws)[before.length]? = some ((after before).read address)) ∧
    ∀ ws', (after ws').slots = (after ws).slots ↔
      ∀ address p, LastWrite ws' address p ↔ LastWrite ws address p := by
  refine ⟨tells_after ws, length_exchangeAll {} ws, ?_, fun ws' => slots_eq_iff⟩
  rintro before address p rest rfl
  exact answer_split {} before address p rest

example : (({} : Registers).writeAll
    [("draft", .text "a"), ("Loud", .text "b"), ("draft", .text "c")]).bound.map
      (fun e => (e.1, e.2.text?)) = [("Loud", some "b"), ("draft", some "c")] := by rfl

end Registers
end ApparatusGraph
