/-
# Single values, written and read back

Integers of every width, flags, absent values and structured data are read back from the trees of
their JSON forms, and so is a variant that is written with its tag and its content side by side
(`Json.Tagged.readFrom_ofJson`).  A reader of data sorts the members of all objects, which changes
nothing in what is sorted already (`Json.sort_of_sorted`).
-/

import ApparatusGraph.Proofs.Json.Reader

namespace ApparatusGraph
namespace Json

variable {τ α : Type}

/-! ## Numbers, flags and absent values -/

/-- An integer within the range that is wanted is read as itself. -/
theorem readWhole_ofJson {low high i : Int}
    (h : -0x8000000000000000 ≤ i ∧ i < 0x10000000000000000) (hrange : low ≤ i ∧ i ≤ high)
    (wanted : String) : readWhole low high wanted (.ofJson (.number (.int i h))) = .ok i :=
  if_pos hrange

/-- A signed word is read as itself. -/
theorem readInt64_ofJson (i : Int64) : readInt64 (.ofJson (.int64 i)) = .ok i := by
  have hlow : -0x8000000000000000 ≤ i.toInt := Int64.le_toInt i
  have hhigh := Int64.toInt_lt i
  unfold readInt64 int64
  rw [readWhole_ofJson _ ⟨hlow, by omega⟩]
  exact congrArg Except.ok (Int64.ofInt_toInt i)

/-- An unsigned word is read as itself. -/
theorem readUInt64_ofJson (n : UInt64) : readUInt64 (.ofJson (.uint64 n)) = .ok n := by
  have hlt := n.toNat_lt
  unfold readUInt64 uint64
  rw [readWhole_ofJson _ ⟨by omega, by omega⟩]
  exact congrArg Except.ok UInt64.ofNat_toNat

/-- A byte is read as itself. -/
theorem readByte_ofJson (b : UInt8) : readByte (.ofJson (.nat b.toNat)) = .ok b := by
  have hlt := b.toNat_lt
  have hsmall : min (b.toNat : Int) (0xFFFFFFFFFFFFFFFF) = b.toNat := by omega
  unfold readByte nat Number.ofNat
  rw [readWhole_ofJson _ ⟨by omega, by omega⟩, hsmall]
  exact congrArg Except.ok UInt8.ofNat_toNat

/-- A truth value is read as itself. -/
theorem readBool_ofJson (b : Bool) : readBool (.ofJson (.bool b)) = .ok b := rfl

/-- What may be absent is read back when nothing that is present is written as null. -/
theorem readOption_ofJson {value : Source → Result α} {f : α → Json}
    (h : ∀ a, value (.ofJson (f a)) = .ok a) (hnull : ∀ a, Source.ofJson (f a) ≠ .null)
    (o : Option α) : readOption value (.ofJson (.option f o)) = .ok o := by
  cases o with
  | none => rfl
  | some a =>
    unfold option readOption
    split
    · rename_i heq
      exact absurd heq (hnull a)
    · rw [h a]
      rfl

/-- What is read back from its form is known by its form. -/
theorem injective_of_read {read : Source → Result α} {f : α → Json}
    (h : ∀ a, read (.ofJson (f a)) = .ok a) : Function.Injective f := by
  intro a b hform
  have hread := h a
  rw [hform, h b] at hread
  exact (Except.ok.inj hread).symm

/-! ## Data -/

/-- An entry above all others is put at their end. -/
theorem place_of_lt {name : String} {a : α} {l : List (String × α)} (h : ∀ e ∈ l, e.1 < name) :
    Named.place name a l = l ++ [(name, a)] := by
  induction l with
  | nil => rfl
  | cons e rest ih =>
    have hlt := h e List.mem_cons_self
    rw [Named.place, if_neg (String.lt_asymm hlt), if_neg (String.ne_of_lt hlt).symm,
      ih fun other hother => h other (List.mem_cons_of_mem _ hother)]
    rfl

mutual

/-- **What is sorted stays as it is.** -/
theorem sort_of_sorted : (json : Json) → json.Sorted → json.sort = json
  | .null, _ => rfl
  | .bool _, _ => rfl
  | .number _, _ => rfl
  | .text _, _ => rfl
  | .list items, h => by rw [sort, sortItems_of_sorted items h]
  | .object members, h => by
    rw [sort, sortMembers_of_sorted members [] (List.pairwise_map.1 h.1) h.2]
    rfl

/-- Items that are sorted stay as they are. -/
theorem sortItems_of_sorted : (items : List Json) → SortedItems items → sortItems items = items
  | [], _ => rfl
  | item :: rest, h => by rw [sortItems, sort_of_sorted item h.1, sortItems_of_sorted rest h.2]

/-- Each member comes after those that are placed already. -/
theorem sortMembers_of_sorted : (members placed : List (String × Json)) →
    (placed ++ members).Pairwise (·.1 < ·.1) → SortedMembers members →
      sortMembers placed members = placed ++ members
  | [], placed, _, _ => by rw [sortMembers, List.append_nil]
  | (name, value) :: rest, placed, hlt, h => by
    have hplaced : ∀ e ∈ placed, e.1 < name := fun e he =>
      (List.pairwise_append.1 hlt).2.2 e he _ List.mem_cons_self
    have hrest : placed ++ (name, value) :: rest = placed ++ [(name, value)] ++ rest := by
      rw [List.append_assoc, List.singleton_append]
    rw [hrest] at hlt ⊢
    rw [sortMembers, sort_of_sorted value h.1, place_of_lt hplaced]
    exact sortMembers_of_sorted rest _ hlt h.2

end

/-- Sorted data is read as itself. -/
theorem readData_ofJson (d : Data) : readData (.ofJson d.json) = .ok d := by
  unfold readData
  rw [Source.keep?_ofJson]
  refine congrArg Except.ok ?_
  obtain ⟨json, sorted⟩ := d
  exact (Data.mk.injEq ..).mpr (sort_of_sorted json sorted)

/-! ## Variants -/

/-- A name that is known is read as its variant. -/
theorem readVariant_ofJson {known : List (String × τ)} {name : String} {kind : τ}
    (h : known.lookup name = some kind) : readVariant known (.ofJson (.text name)) = .ok kind := by
  show readVariant.variant known name = _
  unfold readVariant.variant
  rw [h]

namespace Tagged

variable (t : Tagged τ α) {name : String} {kind : τ} {a : α}

/-- The tag is taken for the tag. -/
theorem next_tag (json : Json) (rest : List (String × Json)) :
    t.next (Source.ofMembers ((t.tag, json) :: rest)) =
      .ok (some (true, .ofJson json, Source.ofMembers rest)) := if_pos rfl

/-- The content is taken for the content, if it has another name than the tag. -/
theorem next_content (hapart : t.content ≠ t.tag) (json : Json) (rest : List (String × Json)) :
    t.next (Source.ofMembers ((t.content, json) :: rest)) =
      .ok (some (false, .ofJson json, Source.ofMembers rest)) := by
  show (if t.content = t.tag then _ else if t.content = t.content then _ else _) = _
  rw [if_neg hapart, if_pos rfl]

/-- A variant with content is read from its tag and its content. -/
theorem readFrom_ofJson (hapart : t.content ≠ t.tag) (hknown : t.known.lookup name = some kind)
    {content : Json} (hread : t.read .direct kind (.ofJson content) = .ok a) :
    t.readFrom (.ofJson (.object [(t.tag, .text name), (t.content, content)])) = .ok a := by
  show t.readMembers (Source.ofMembers _) = _
  unfold readMembers
  rw [t.next_tag]
  dsimp only [bind, Except.bind]
  rw [readVariant_ofJson hknown]
  dsimp only
  rw [t.next_content hapart]
  dsimp only
  rw [hread]
  rfl

/-- A variant without content is read from its tag alone. -/
theorem readFrom_ofJson_bare (hknown : t.known.lookup name = some kind)
    (hbare : t.bare kind = some a) :
    t.readFrom (.ofJson (.object [(t.tag, .text name)])) = .ok a := by
  show t.readMembers (Source.ofMembers _) = _
  unfold readMembers
  rw [t.next_tag]
  dsimp only [bind, Except.bind]
  rw [readVariant_ofJson hknown]
  dsimp only [Source.ofMembers, next]
  rw [hbare]

end Tagged
end Json
end ApparatusGraph
