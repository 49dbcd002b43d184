/-
# Written JSON, parsed to a tree

A text of a value parses to the tree of the value (`Json.parse_spaced`), as long as the value is
not nested deeper than a tree may be.  The machine that builds the tree holds the open containers
on a stack; over the tokens of a value it comes to the same as if the tree of the value had been
supplied at once (`Reading.foldlM_marks`), whatever is on the stack.

A tree of a value can be kept, and what is kept is the value (`Source.keep?_ofJson`).
-/

import ApparatusGraph.Json.Reader
import ApparatusGraph.Proofs.Json.Printer

namespace ApparatusGraph
namespace Json

/-! ## Trees and depths of values -/

mutual

/-- The tree of a value. -/
def Source.ofJson : Json → Source
  | .null => .null
  | .bool b => .bool b
  | .number n => .number n
  | .text s => .text s
  | .list items => .list (Source.ofItems items)
  | .object members => .object (Source.ofMembers members)

/-- The trees of items. -/
def Source.ofItems : List Json → List Source
  | [] => []
  | item :: rest => Source.ofJson item :: Source.ofItems rest

/-- The trees of members. -/
def Source.ofMembers : List (String × Json) → List (Option String × Source)
  | [] => []
  | (name, value) :: rest => (some name, Source.ofJson value) :: Source.ofMembers rest

end

mutual

/-- How many containers stand inside one another in a value. -/
def depth : Json → Nat
  | .list items => itemsDepth items + 1
  | .object members => membersDepth members + 1
  | _ => 0

/-- The greatest depth of an item. -/
def itemsDepth : List Json → Nat
  | [] => 0
  | item :: rest => max item.depth (itemsDepth rest)

/-- The greatest depth of the value of a member. -/
def membersDepth : List (String × Json) → Nat
  | [] => 0
  | (_, value) :: rest => max value.depth (membersDepth rest)

end

/-! ## The machine -/

/-- A value may come next. -/
def Turn.Awaits (turn : Turn) : Prop := turn = .value ∨ turn = .firstItem

namespace Reading

/-- Where a value may come next, a token begins one. -/
theorem step_begin {turn : Turn} (hturn : turn.Awaits) (stack : List Frame) {t : Token}
    (ht : t ≠ .closeList) : step (.going turn stack) t = begin stack t := by
  rcases hturn with rfl | rfl
  · rfl
  · cases t with
    | closeList => exact absurd rfl ht
    | _ => rfl

/-- The machine goes on from where a token has taken it. -/
theorem foldlM_cons_of_step {r r' : Reading} {t : Token} (h : step r t = some r')
    (ts : List Token) : (t :: ts).foldlM step r = ts.foldlM step r' := by
  rw [List.foldlM_cons, h]
  rfl

/-- Tokens of which the first leads nowhere else than to a value. -/
theorem foldlM_singleton (r : Reading) (t : Token) : [t].foldlM step r = step r t := by
  rw [List.foldlM_cons]
  cases step r t <;> rfl

/-- Two rows of tokens, one after the other. -/
theorem foldlM_append_of_eq {r r' : Reading} {ts : List Token} (h : ts.foldlM step r = some r')
    (ts' : List Token) : (ts ++ ts').foldlM step r = ts'.foldlM step r' := by
  rw [List.foldlM_append, h]
  rfl

/-- The end of a list that is not nested too deep. -/
theorem step_closeList {turn : Turn} (hturn : turn = .firstItem ∨ turn = .more) (parts : List Source)
    {stack : List Frame} (hdepth : stack.length < maxDepth) :
    step (.going turn (.list parts :: stack)) .closeList = supply (.list parts.reverse) stack := by
  have hclose : close (.list parts :: stack) = supply (.list parts.reverse) stack := by
    rw [close, if_pos hdepth]
  rcases hturn with rfl | rfl
  · exact hclose
  · exact hclose

/-- The end of an object that is not nested too deep. -/
theorem step_closeObject {turn : Turn} (hturn : turn = .firstName ∨ turn = .more)
    (parts : List (Option String × Source)) {stack : List Frame}
    (hdepth : stack.length < maxDepth) :
    step (.going turn (.object parts :: stack)) .closeObject =
      supply (.object parts.reverse) stack := by
  have hclose : close (.object parts :: stack) = supply (.object parts.reverse) stack := by
    rw [close, if_pos hdepth]
  rcases hturn with rfl | rfl
  · exact hclose
  · exact hclose

mutual

/-- **Over the tokens of a value the machine comes to the same as if the value was supplied.** -/
theorem foldlM_marks : (json : Json) → (stack : List Frame) → {turn : Turn} → turn.Awaits →
    stack.length + json.depth ≤ maxDepth →
      json.marks.foldlM step (.going turn stack) = supply (.ofJson json) stack
  | .null, stack, turn, hturn, _ => by
    rw [marks, foldlM_singleton, step_begin hturn stack (by rintro ⟨⟩), begin, Source.ofJson]
  | .bool b, stack, turn, hturn, _ => by
    rw [marks, foldlM_singleton, step_begin hturn stack (by rintro ⟨⟩), begin, Source.ofJson]
  | .number n, stack, turn, hturn, _ => by
    rw [marks, foldlM_singleton, step_begin hturn stack (by rintro ⟨⟩), begin, Source.ofJson]
  | .text s, stack, turn, hturn, _ => by
    rw [marks, foldlM_singleton, step_begin hturn stack (by rintro ⟨⟩), begin, Source.ofJson]
  | .list [], stack, turn, hturn, hdepth => by
    rw [depth, itemsDepth] at hdepth
    have hopen : step (.going turn stack) .openList = some (.going .firstItem (.list [] :: stack)) :=
      step_begin hturn stack (by rintro ⟨⟩)
    rw [marks, foldlM_cons_of_step hopen, foldlM_singleton, step_closeList (.inl rfl) [] (by omega),
      Source.ofJson, Source.ofItems]
    rfl
  | .list (item :: items), stack, turn, hturn, hdepth => by
    rw [depth, itemsDepth] at hdepth
    have hopen : step (.going turn stack) .openList = some (.going .firstItem (.list [] :: stack)) :=
      step_begin hturn stack (by rintro ⟨⟩)
    have hitem := foldlM_marks item (.list [] :: stack) (.inr rfl)
      (by rw [List.length_cons]; omega)
    have hitems := foldlM_itemMarks items [.ofJson item] stack (by omega)
    rw [marks, foldlM_cons_of_step hopen, List.append_assoc, foldlM_append_of_eq hitem,
      foldlM_append_of_eq hitems, foldlM_singleton, step_closeList (.inr rfl) _ (by omega),
      List.reverse_append, List.reverse_reverse, Source.ofJson, Source.ofItems]
    rfl
  | .object [], stack, turn, hturn, hdepth => by
    rw [depth, membersDepth] at hdepth
    have hopen : step (.going turn stack) .openObject =
        some (.going .firstName (.object [] :: stack)) := step_begin hturn stack (by rintro ⟨⟩)
    rw [marks, foldlM_cons_of_step hopen, foldlM_singleton,
      step_closeObject (.inl rfl) [] (by omega), Source.ofJson, Source.ofMembers]
    rfl
  | .object ((name, value) :: members), stack, turn, hturn, hdepth => by
    rw [depth, membersDepth] at hdepth
    have hopen : step (.going turn stack) .openObject =
        some (.going .firstName (.object [] :: stack)) := step_begin hturn stack (by rintro ⟨⟩)
    have hvalue := foldlM_marks value (.member [] (some name) :: stack) (.inl rfl)
      (by rw [List.length_cons]; omega)
    have hmembers := foldlM_memberMarks members [(some name, .ofJson value)] stack (by omega)
    rw [marks, foldlM_cons_of_step hopen, foldlM_cons_of_step rfl, foldlM_cons_of_step rfl,
      List.append_assoc, foldlM_append_of_eq hvalue, foldlM_append_of_eq hmembers, foldlM_singleton,
      step_closeObject (.inr rfl) _ (by omega), List.reverse_append, List.reverse_reverse,
      Source.ofJson, Source.ofMembers]
    rfl

/-- The items after the first. -/
theorem foldlM_itemMarks : (items : List Json) → (parts : List Source) → (stack : List Frame) →
    stack.length + 1 + itemsDepth items ≤ maxDepth →
      (itemMarks items).foldlM step (.going .more (.list parts :: stack)) =
        some (.going .more (.list ((Source.ofItems items).reverse ++ parts) :: stack))
  | [], parts, stack, _ => rfl
  | item :: items, parts, stack, hdepth => by
    rw [itemsDepth] at hdepth
    have hitem := foldlM_marks item (.list parts :: stack) (.inl rfl)
      (by rw [List.length_cons]; omega)
    have hitems := foldlM_itemMarks items (.ofJson item :: parts) stack (by omega)
    rw [itemMarks, foldlM_cons_of_step rfl, foldlM_append_of_eq hitem, hitems, Source.ofItems,
      List.reverse_cons, List.append_assoc, List.singleton_append]

/-- The members after the first. -/
theorem foldlM_memberMarks : (members : List (String × Json)) →
    (parts : List (Option String × Source)) → (stack : List Frame) →
      stack.length + 1 + membersDepth members ≤ maxDepth →
        (memberMarks members).foldlM step (.going .more (.object parts :: stack)) =
          some (.going .more (.object ((Source.ofMembers members).reverse ++ parts) :: stack))
  | [], parts, stack, _ => rfl
  | (name, value) :: members, parts, stack, hdepth => by
    rw [membersDepth] at hdepth
    have hvalue := foldlM_marks value (.member parts (some name) :: stack) (.inl rfl)
      (by rw [List.length_cons]; omega)
    have hmembers := foldlM_memberMarks members ((some name, .ofJson value) :: parts) stack (by omega)
    rw [memberMarks, foldlM_cons_of_step rfl, foldlM_cons_of_step rfl, foldlM_cons_of_step rfl,
      foldlM_append_of_eq hvalue, hmembers, Source.ofMembers, List.reverse_cons, List.append_assoc,
      List.singleton_append]

end

end Reading

/-! ## Parsing -/

/-- **A text of a value parses to the tree of the value,** whatever white space it has. -/
theorem parse_spaced {json : Json} {s : String} (h : Spaced json.marks s.toList)
    (hdepth : json.depth ≤ maxDepth) : Source.parse? s = some (.ofJson json) := by
  have hfold := Reading.foldlM_marks json [] (.inl rfl) (by rw [List.length_nil]; omega)
  unfold Source.parse?
  rw [tokens_of_spaced_marks h]
  show Source.ofTokens? json.marks = _
  unfold Source.ofTokens?
  rw [hfold]
  rfl

mutual

/-- The tree of a value keeps the value. -/
theorem Source.keep?_ofJson : (json : Json) → (Source.ofJson json).keep? = some json
  | .null => rfl
  | .bool _ => rfl
  | .number _ => rfl
  | .text _ => rfl
  | .list items => by
    rw [Source.ofJson, Source.keep?, Source.keepItems?_ofItems items]
    rfl
  | .object members => by
    rw [Source.ofJson, Source.keep?, Source.keepMembers?_ofMembers members]
    rfl

/-- The items of a value can be kept as they are. -/
theorem Source.keepItems?_ofItems : (items : List Json) →
    Source.keepItems? (Source.ofItems items) = some items
  | [] => rfl
  | item :: rest => by
    rw [Source.ofItems, Source.keepItems?, Source.keep?_ofJson item,
      Source.keepItems?_ofItems rest]
    rfl

/-- The members of a value can be kept as they are. -/
theorem Source.keepMembers?_ofMembers : (members : List (String × Json)) →
    Source.keepMembers? (Source.ofMembers members) = some members
  | [] => rfl
  | (name, value) :: rest => by
    rw [Source.ofMembers, Source.keepMembers?, Source.keep?_ofJson value,
      Source.keepMembers?_ofMembers rest]
    rfl

end

/-- Nothing in a value is unreadable. -/
theorem Source.keepable_ofJson (json : Json) : (Source.ofJson json).keepable = true := by
  unfold Source.keepable
  rw [Source.keep?_ofJson]
  rfl

/-! ## Values that parse -/

/-- Items are nested as deep as the deepest of them. -/
theorem itemsDepth_le {k : Nat} {items : List Json} (h : ∀ item ∈ items, item.depth ≤ k) :
    itemsDepth items ≤ k := by
  induction items with
  | nil => exact Nat.zero_le k
  | cons item rest ih =>
    have hrest := ih fun other hother => h other (List.mem_cons_of_mem _ hother)
    exact Nat.max_le.2 ⟨h item List.mem_cons_self, hrest⟩

/-- Members are nested as deep as the deepest of them. -/
theorem membersDepth_le {k : Nat} {members : List (String × Json)}
    (h : ∀ member ∈ members, member.2.depth ≤ k) : membersDepth members ≤ k := by
  induction members with
  | nil => exact Nat.zero_le k
  | cons member rest ih =>
    have hrest := ih fun other hother => h other (List.mem_cons_of_mem _ hother)
    exact Nat.max_le.2 ⟨h member List.mem_cons_self, hrest⟩

/-- A list is nested one deeper than its items. -/
theorem depth_list_le {k : Nat} {items : List Json} (h : ∀ item ∈ items, item.depth ≤ k) :
    (Json.list items).depth ≤ k + 1 := Nat.succ_le_succ (itemsDepth_le h)

/-- An object is nested one deeper than its members. -/
theorem depth_object_le {k : Nat} {members : List (String × Json)}
    (h : ∀ member ∈ members, member.2.depth ≤ k) : (Json.object members).depth ≤ k + 1 :=
  Nat.succ_le_succ (membersDepth_le h)

/-- A list of items without doubles has none. -/
theorem floatFree_list {items : List Json} (h : ∀ item ∈ items, item.FloatFree) :
    (Json.list items).FloatFree := by
  show FloatFreeItems items
  induction items with
  | nil => trivial
  | cons item rest ih =>
    exact ⟨h item List.mem_cons_self, ih fun other hother => h other (List.mem_cons_of_mem _ hother)⟩

/-- An object of members without doubles has none. -/
theorem floatFree_object {members : List (String × Json)}
    (h : ∀ member ∈ members, member.2.FloatFree) : (Json.object members).FloatFree := by
  show FloatFreeMembers members
  induction members with
  | nil => trivial
  | cons member rest ih =>
    exact ⟨h member List.mem_cons_self,
      ih fun other hother => h other (List.mem_cons_of_mem _ hother)⟩

/-- A value without doubles in which at most `k` containers stand inside one another. -/
structure Plain (k : Nat) (json : Json) : Prop where
  free : json.FloatFree
  depth : json.depth ≤ k

namespace Plain

variable {k : Nat}

/-- A text is plain at any depth. -/
theorem text (s : String) : Plain k (.text s) := ⟨trivial, Nat.zero_le k⟩

/-- A list of plain items is plain one level up. -/
theorem list {items : List Json} (h : ∀ item ∈ items, Plain k item) :
    Plain (k + 1) (.list items) :=
  ⟨floatFree_list fun item hitem => (h item hitem).free,
    depth_list_le fun item hitem => (h item hitem).depth⟩

/-- An object of plain members is plain one level up. -/
theorem object {members : List (String × Json)} (h : ∀ member ∈ members, Plain k member.2) :
    Plain (k + 1) (.object members) :=
  ⟨floatFree_object fun member hmember => (h member hmember).free,
    depth_object_le fun member hmember => (h member hmember).depth⟩

/-- A list of plain forms is plain one level up. -/
theorem list_map {α : Type} {f : α → Json} (h : ∀ a, Plain k (f a)) (l : List α) :
    Plain (k + 1) (.list (l.map f)) := by
  refine list fun item hitem => ?_
  obtain ⟨a, -, rfl⟩ := List.mem_map.1 hitem
  exact h a

/-- A list of texts is plain. -/
theorem texts (l : List String) : Plain (k + 1) (.list (l.map .text)) := list_map text l

end Plain

/-- Reading a text of a value is reading the tree of the value. -/
theorem readString_spaced {α : Type} (read : Source → Result α) {json : Json} {s : String}
    (h : Spaced json.marks s.toList) (hdepth : json.depth ≤ maxDepth) :
    readString read s = read (.ofJson json) := by
  unfold readString
  rw [parse_spaced h hdepth]

/-- Reading what was written is reading its tree. -/
theorem readString_write {α : Type} (read : Source → Result α) {l : Layout} (hl : l.Blank)
    {json : Json} (h : Plain maxDepth json) :
    readString read (.ofList (json.write l 0)) = read (.ofJson json) := by
  refine readString_spaced read ?_ h.depth
  rw [String.toList_ofList]
  exact spaced_write hl json 0 h.free

end Json
end ApparatusGraph
