/-
# Finite maps ordered by name

A `Named α` maps finitely many names to values.  Its entries stand in strictly
increasing order of their names, character by character in code-point order, so
two maps with the same look-ups are the same value and every listing of a map has
one order.

| operation | meaning |
| --- | --- |
| `m.get? name` | the value of `name` |
| `m.insert name a` | `name` now has the value `a` |
| `Named.ofList pairs` | the later of two pairs with one name wins |
| `m.filterMap f` | the entries on which `f` answers |
-/

namespace ApparatusGraph

universe u v

/-- A finite map whose entries are in strictly increasing order of their names. -/
structure Named (α : Type u) where
  entries : List (String × α)
  increasing : (entries.map (·.1)).Pairwise (· < ·)
  deriving DecidableEq

namespace Named

variable {α : Type u} {β : Type v}

/-- The map with no entries. -/
def empty : Named α := ⟨[], .nil⟩

instance : EmptyCollection (Named α) := ⟨empty⟩

instance : Inhabited (Named α) := ⟨empty⟩

instance [BEq α] : BEq (Named α) := ⟨fun m n => m.entries == n.entries⟩

/-- Puts an entry at its place in an ordered list of entries, over an entry of the same name. -/
def place (name : String) (a : α) : List (String × α) → List (String × α)
  | [] => [(name, a)]
  | (other, b) :: rest =>
    if name < other then (name, a) :: (other, b) :: rest
    else if name = other then (name, a) :: rest
    else (other, b) :: place name a rest

/-- Placing an entry brings in no name but its own. -/
theorem mem_names_place {name x : String} {a : α} {l : List (String × α)}
    (h : x ∈ (place name a l).map (·.1)) : x = name ∨ x ∈ l.map (·.1) := by
  induction l with
  | nil => simpa [place] using h
  | cons e rest ih =>
    unfold place at h
    split at h
    · simpa using h
    · split at h
      · rename_i heq
        simp only [List.map_cons, List.mem_cons] at h ⊢
        rcases h with h | h
        · exact .inl h
        · exact .inr (.inr h)
      · simp only [List.map_cons, List.mem_cons] at h ⊢
        rcases h with h | h
        · exact .inr (.inl h)
        · exact (ih h).imp id .inr

/-- An entry is put where the names stay in increasing order. -/
theorem increasing_place (name : String) (a : α) {l : List (String × α)}
    (h : (l.map (·.1)).Pairwise (· < ·)) : ((place name a l).map (·.1)).Pairwise (· < ·) := by
  induction l with
  | nil => simp [place]
  | cons e rest ih =>
    simp only [List.map_cons, List.pairwise_cons] at h
    unfold place
    split
    · rename_i hlt
      simp only [List.map_cons, List.pairwise_cons, List.mem_cons]
      refine ⟨?_, h⟩
      rintro x (rfl | hx)
      · exact hlt
      · exact String.lt_trans hlt (h.1 x hx)
    · split
      · rename_i heq
        subst heq
        simpa using h
      · rename_i hnlt hne
        simp only [List.map_cons, List.pairwise_cons]
        refine ⟨fun x hx => ?_, ih h.2⟩
        rcases mem_names_place hx with rfl | hx
        · grind
        · exact h.1 x hx

/-- The map in which `name` has the value `a` and all else is as in `m`. -/
def insert (m : Named α) (name : String) (a : α) : Named α :=
  ⟨place name a m.entries, increasing_place name a m.increasing⟩

/-- The map of a list of pairs; of two pairs with one name the later counts. -/
def ofList (pairs : List (String × α)) : Named α :=
  pairs.foldl (fun m (name, a) => m.insert name a) ∅

/-- The value of `name`, if it has one. -/
def get? (m : Named α) (name : String) : Option α := m.entries.lookup name

/-- True of the names that have a value. -/
def contains (m : Named α) (name : String) : Bool := (m.get? name).isSome

/-- The names in order. -/
def names (m : Named α) : List String := m.entries.map (·.1)

/-- The values in the order of their names. -/
def values (m : Named α) : List α := m.entries.map (·.2)

/-- The number of entries. -/
def size (m : Named α) : Nat := m.entries.length

/-- True of the map with no entries. -/
def isEmpty (m : Named α) : Bool := m.entries.isEmpty

/-- The entries on which `f` answers, with its answers as values. -/
def filterMap (m : Named α) (f : String → α → Option β) : Named β where
  entries := m.entries.filterMap fun (name, a) => (f name a).map (name, ·)
  increasing := by
    rw [List.map_filterMap]
    refine List.Pairwise.filterMap _ ?_ (List.pairwise_map.1 m.increasing)
    intro e e' hlt x hx y hy
    simp only [Option.map_map, Option.map_eq_some_iff, Function.comp] at hx hy
    obtain ⟨_, _, rfl⟩ := hx
    obtain ⟨_, _, rfl⟩ := hy
    exact hlt

/-- The map with every value replaced by its image. -/
def map (m : Named α) (f : α → β) : Named β := m.filterMap fun _ a => some (f a)

/-- The map without `name`. -/
def erase (m : Named α) (name : String) : Named α :=
  m.filterMap fun other a => if other = name then none else some a

/-! ## Look-ups -/

/-- No name has a value in the map with no entries. -/
@[simp]
theorem get?_empty (name : String) : (∅ : Named α).get? name = none := rfl

/-- A placed entry is found at its own name, and the others as before. -/
theorem lookup_place (name other : String) (a : α) (l : List (String × α)) :
    (place name a l).lookup other = if other = name then some a else l.lookup other := by
  induction l with
  | nil =>
    by_cases h : other = name
    · subst h
      simp [place]
    · rw [place, List.lookup_cons, beq_false_of_ne h, if_neg h]
  | cons e rest ih =>
    obtain ⟨first, b⟩ := e
    unfold place
    split
    · by_cases h : other = name
      · subst h
        simp
      · rw [List.lookup_cons, beq_false_of_ne h, if_neg h]
    · split
      · rename_i heq
        subst heq
        by_cases h : other = name
        · subst h
          simp
        · rw [List.lookup_cons, List.lookup_cons, beq_false_of_ne h, if_neg h]
      · rename_i hne
        by_cases h : other = first
        · subst h
          rw [if_neg (fun heq => hne heq.symm), List.lookup_cons_self, List.lookup_cons_self]
        · rw [List.lookup_cons, List.lookup_cons, beq_false_of_ne h, ih]

/-- An insertion is seen at its own name and nowhere else. -/
@[simp]
theorem get?_insert (m : Named α) (name other : String) (a : α) :
    (m.insert name a).get? other = if other = name then some a else m.get? other :=
  lookup_place name other a m.entries

/-- In a list of increasing names, what is looked up is what stands there. -/
theorem lookup_eq_some_iff {l : List (String × α)} (h : (l.map (·.1)).Pairwise (· < ·))
    {name : String} {a : α} : l.lookup name = some a ↔ (name, a) ∈ l := by
  induction l with
  | nil => simp
  | cons e rest ih =>
    obtain ⟨first, b⟩ := e
    rw [List.map_cons, List.pairwise_cons] at h
    by_cases heq : name = first
    · subst heq
      rw [List.lookup_cons_self, List.mem_cons]
      constructor
      · intro hab
        exact .inl (by rw [Option.some.inj hab])
      · rintro (hab | hmem)
        · rw [(Prod.mk.inj hab).2]
        · exact absurd (h.1 name (List.mem_map.2 ⟨_, hmem, rfl⟩)) (String.lt_irrefl name)
    · rw [List.lookup_cons, beq_false_of_ne heq, List.mem_cons]
      constructor
      · intro hab
        exact .inr ((ih h.2).1 hab)
      · rintro (hab | hmem)
        · exact absurd (Prod.mk.inj hab).1 heq
        · exact (ih h.2).2 hmem

/-- The value of a name is that of its entry. -/
theorem get?_eq_some_iff {m : Named α} {name : String} {a : α} :
    m.get? name = some a ↔ (name, a) ∈ m.entries :=
  lookup_eq_some_iff m.increasing

/-- Where a map is filtered, a look-up is answered by the function on what was there. -/
theorem get?_filterMap (m : Named α) (f : String → α → Option β) (name : String) :
    (m.filterMap f).get? name = (m.get? name).bind (f name) := by
  refine Option.ext fun b => ?_
  rw [get?_eq_some_iff, Option.bind_eq_some_iff]
  simp only [filterMap, List.mem_filterMap, Option.map_eq_some_iff, Prod.mk.injEq]
  constructor
  · rintro ⟨⟨other, a⟩, hmem, b', hb, rfl, rfl⟩
    exact ⟨a, get?_eq_some_iff.2 hmem, hb⟩
  · rintro ⟨a, ha, hb⟩
    exact ⟨(name, a), get?_eq_some_iff.1 ha, b, hb, rfl, rfl⟩

/-- Where the values are replaced by their images, a look-up finds the image. -/
theorem get?_map (m : Named α) (f : α → β) (name : String) :
    (m.map f).get? name = (m.get? name).map f := by
  unfold map
  rw [get?_filterMap]
  cases m.get? name <;> rfl

/-- Lists of increasing names with the same members are the same list. -/
theorem eq_of_mem_iff {l l' : List (String × α)} (h : (l.map (·.1)).Pairwise (· < ·))
    (h' : (l'.map (·.1)).Pairwise (· < ·)) (hmem : ∀ e, e ∈ l ↔ e ∈ l') : l = l' := by
  have below {l : List (String × α)} (h : (l.map (·.1)).Pairwise (· < ·)) :
      l.Pairwise fun e e' => e.1 < e'.1 := List.pairwise_map.1 h
  have distinct {l : List (String × α)} (h : (l.map (·.1)).Pairwise (· < ·)) : l.Nodup := by
    refine (below h).imp ?_
    rintro e _ hlt rfl
    exact String.lt_irrefl _ hlt
  refine List.Perm.eq_of_pairwise ?_ (below h) (below h')
    ((List.perm_ext_iff_of_nodup (distinct h) (distinct h')).2 hmem)
  intro e e' _ _ hlt hgt
  exact absurd (String.lt_trans hlt hgt) (String.lt_irrefl _)

/-- **Look-ups determine a map:** two maps with the same look-ups are the same value. -/
theorem ext_get? {m n : Named α} (h : ∀ name, m.get? name = n.get? name) : m = n := by
  have hentries : m.entries = n.entries := by
    refine eq_of_mem_iff m.increasing n.increasing fun ⟨name, a⟩ => ?_
    rw [← get?_eq_some_iff, h name, get?_eq_some_iff]
  cases m
  cases n
  cases hentries
  rfl

end Named
end ApparatusGraph
