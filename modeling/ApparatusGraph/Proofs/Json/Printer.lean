/-
# Written JSON

What a layout writes is one of the ways in which the tokens of a value are written
(`Json.spaced_write`), since it puts nothing but white space between them.  That it does is what
the layout must see to (`Layout.Blank`).

Doubles have no written form here (`Json.FloatFree`).
-/

import ApparatusGraph.Proofs.Json.Spacing

namespace ApparatusGraph
namespace Json

mutual

/-- No number in the value is a double. -/
def FloatFree : Json → Prop
  | .number (.float _) => False
  | .list items => FloatFreeItems items
  | .object members => FloatFreeMembers members
  | _ => True

/-- No number in an item is a double. -/
def FloatFreeItems : List Json → Prop
  | [] => True
  | item :: rest => item.FloatFree ∧ FloatFreeItems rest

/-- No number in the value of a member is a double. -/
def FloatFreeMembers : List (String × Json) → Prop
  | [] => True
  | (_, value) :: rest => value.FloatFree ∧ FloatFreeMembers rest

end

/-- A layout of white space. -/
structure Layout.Blank (l : Layout) : Prop where
  lineBreak : ∀ depth, ∀ c ∈ l.lineBreak depth, isSpace c = true
  gap : ∀ c ∈ l.gap, isSpace c = true

/-- The compact layout puts no characters between tokens. -/
theorem Layout.compact_blank : Layout.compact.Blank :=
  ⟨fun _ _ h => absurd h List.not_mem_nil, fun _ h => absurd h List.not_mem_nil⟩

/-- The indented layout puts white space between tokens. -/
theorem Layout.spread_blank : Layout.spread.Blank := by
  refine ⟨fun depth c hc => ?_, fun c hc => ?_⟩
  · rcases List.mem_cons.1 hc with rfl | hc
    · rfl
    · obtain rfl := List.eq_of_mem_replicate hc
      rfl
  · obtain rfl := List.mem_singleton.1 hc
    rfl

/-! ## Writing -/

variable {l : Layout}

/-- A mark is written as its character. -/
theorem Mark.spaced {c : Char} {t : Token} (h : Mark c t) : Spaced [t] [c] := .single (.mark h)

/-- A quoted string. -/
theorem spaced_quote (s : String) : Spaced [.text (some s)] (quote s) :=
  .single (.text (spelled_flatMap_escape s.toList))

/-- A name, the colon after it, and a value. -/
theorem spaced_member (hl : l.Blank) (depth : Nat) (name : String) {ts : List Token}
    {cs : List Char} (h : Spaced ts cs) :
    Spaced (.text (some name) :: .colon :: ts)
      (l.lineBreak depth ++ quote name ++ ':' :: l.gap ++ cs) := by
  have hname := (spaced_quote name).after (hl.lineBreak depth)
  have hcolon := Mark.colon.spaced.append (h.after hl.gap)
  rw [List.append_assoc, List.cons_append]
  exact hname.append hcolon

mutual

/-- **A blank layout writes the tokens of a value.** -/
theorem spaced_write (hl : l.Blank) : (json : Json) → (depth : Nat) → json.FloatFree →
    Spaced json.marks (write l depth json)
  | .null, depth, _ => .single .null
  | .bool true, depth, _ => .single .true
  | .bool false, depth, _ => .single .false
  | .number (.int i h), depth, _ => .single (.int h)
  | .number (.float f), depth, hfree => by
    unfold FloatFree at hfree
    exact hfree.elim
  | .text s, depth, _ => spaced_quote s
  | .list [], depth, _ => Mark.openList.spaced.append Mark.closeList.spaced
  | .list (item :: items), depth, hfree => by
    have hitem := (spaced_write hl item (depth + 1) hfree.1).after (hl.lineBreak (depth + 1))
    have hitems := spaced_writeItems hl items (depth + 1) hfree.2
    have hclose := Mark.closeList.spaced.after (hl.lineBreak depth)
    rw [write, marks, List.append_assoc _ _ [']']]
    exact Mark.openList.spaced.append ((hitem.append hitems).append hclose)
  | .object [], depth, _ => Mark.openObject.spaced.append Mark.closeObject.spaced
  | .object ((name, value) :: members), depth, hfree => by
    have hvalue := spaced_write hl value (depth + 1) hfree.1
    have hmember := spaced_member hl (depth + 1) name hvalue
    have hmembers := spaced_writeMembers hl members (depth + 1) hfree.2
    have hclose := Mark.closeObject.spaced.after (hl.lineBreak depth)
    rw [write, marks, List.append_assoc _ _ ['\x7d']]
    exact Mark.openObject.spaced.append ((hmember.append hmembers).append hclose)

/-- The items after the first. -/
theorem spaced_writeItems (hl : l.Blank) : (items : List Json) → (depth : Nat) →
    FloatFreeItems items → Spaced (itemMarks items) (writeItems l depth items)
  | [], depth, _ => .blank fun _ => nofun
  | item :: items, depth, hfree => by
    have hitem := (spaced_write hl item depth hfree.1).after (hl.lineBreak depth)
    have hitems := spaced_writeItems hl items depth hfree.2
    rw [writeItems, itemMarks]
    exact Mark.comma.spaced.append (hitem.append hitems)

/-- The members after the first. -/
theorem spaced_writeMembers (hl : l.Blank) : (members : List (String × Json)) → (depth : Nat) →
    FloatFreeMembers members → Spaced (memberMarks members) (writeMembers l depth members)
  | [], depth, _ => .blank fun _ => nofun
  | (name, value) :: members, depth, hfree => by
    have hvalue := spaced_write hl value depth hfree.1
    have hmember := spaced_member hl depth name hvalue
    have hmembers := spaced_writeMembers hl members depth hfree.2
    rw [writeMembers, memberMarks]
    exact Mark.comma.spaced.append (hmember.append hmembers)

end

end Json
end ApparatusGraph
