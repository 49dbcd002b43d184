/-
# JSON values

`Json` is a JSON value with the members of its objects in the order in which they
are written.  Numbers are whole numbers from `-2^63` to `2^64 - 1` or doubles.

`Data` is a JSON value held as data: in every object the names are strictly
increasing, so an object is a finite map and equal maps are equal values.
`Data.ofJson` sorts, and of two members with one name the later counts.
-/

import ApparatusGraph.Named
import ApparatusGraph.Decimal.Numeral

namespace ApparatusGraph

/-- A JSON number: a whole number of 64 bits, signed or not, or a double. -/
inductive Number where
  | int (i : Int) (inRange : -0x8000000000000000 ≤ i ∧ i < 0x10000000000000000)
  | float (f : Float)

namespace Number

instance : BEq Number where
  beq
    | .int i _, .int j _ => i == j
    | .float f, .float g => f == g
    | _, _ => false

/-- The number of a natural number; past 64 bits the greatest one. -/
def ofNat (n : Nat) : Number := .int (min n (0xFFFFFFFFFFFFFFFF)) (by omega)

/-- The number of a numeral: whole where it is written without point and power, in range and not
minus zero; otherwise a double, and none when that is too large. -/
def ofNumeral? (n : Decimal.Numeral) : Option Number :=
  match n.toInt? with
  | some i =>
    if h : -0x8000000000000000 ≤ i ∧ i < 0x10000000000000000 then
      if i = 0 ∧ n.negative then some (.float (-0.0)) else some (.int i h)
    else n.toFloat?.map .float
  | none => n.toFloat?.map .float

end Number

/-- A JSON value, members of objects in the order of writing. -/
inductive Json where
  | null
  | bool (b : Bool)
  | number (n : Number)
  | text (s : String)
  | list (items : List Json)
  | object (members : List (String × Json))
  deriving BEq, Inhabited

namespace Json

/-- The JSON form of a natural number. -/
def nat (n : Nat) : Json := .number (.ofNat n)

/-- The JSON form of a value that may be absent. -/
def option {α : Type} (f : α → Json) : Option α → Json
  | some a => f a
  | none => .null

mutual

/-- In every object the names are strictly increasing. -/
def Sorted : Json → Prop
  | .list items => SortedItems items
  | .object members => (members.map (·.1)).Pairwise (· < ·) ∧ SortedMembers members
  | _ => True

/-- Every item is sorted. -/
def SortedItems : List Json → Prop
  | [] => True
  | item :: rest => item.Sorted ∧ SortedItems rest

/-- The value of every member is sorted. -/
def SortedMembers : List (String × Json) → Prop
  | [] => True
  | (_, value) :: rest => value.Sorted ∧ SortedMembers rest

end

mutual

/-- The value with the members of every object in order of their names, the later of two members
with one name kept. -/
def sort : Json → Json
  | .list items => .list (sortItems items)
  | .object members => .object (sortMembers [] members)
  | json => json

/-- Sorts every item. -/
def sortItems : List Json → List Json
  | [] => []
  | item :: rest => item.sort :: sortItems rest

/-- Places sorted members one after the other among those already placed. -/
def sortMembers (placed : List (String × Json)) : List (String × Json) → List (String × Json)
  | [] => placed
  | (name, value) :: rest => sortMembers (Named.place name value.sort placed) rest

end

/-- Placing a sorted value keeps the members sorted. -/
theorem sortedMembers_place {name : String} {value : Json} {l : List (String × Json)}
    (hv : value.Sorted) (hl : SortedMembers l) : SortedMembers (Named.place name value l) := by
  induction l with
  | nil => exact ⟨hv, trivial⟩
  | cons e rest ih =>
    unfold Named.place
    split
    · exact ⟨hv, hl⟩
    · split
      · exact ⟨hv, hl.2⟩
      · exact ⟨hl.1, ih hl.2⟩

mutual

/-- Sorting leaves a value whose members are in order, at every depth. -/
theorem sorted_sort : (json : Json) → json.sort.Sorted
  | .null => trivial
  | .bool _ => trivial
  | .number _ => trivial
  | .text _ => trivial
  | .list items => by
    simp only [sort, Sorted]
    exact sortedItems_sort items
  | .object members => by
    simp only [sort, Sorted]
    exact sortedMembers_sort members [] .nil trivial

/-- Sorting leaves sorted values in a list. -/
theorem sortedItems_sort : (items : List Json) → SortedItems (sortItems items)
  | [] => trivial
  | item :: rest => ⟨sorted_sort item, sortedItems_sort rest⟩

/-- Sorting members onto placed ones keeps their names in order and their values sorted. -/
theorem sortedMembers_sort : (members placed : List (String × Json)) →
    (placed.map (·.1)).Pairwise (· < ·) → SortedMembers placed →
    ((sortMembers placed members).map (·.1)).Pairwise (· < ·) ∧
      SortedMembers (sortMembers placed members)
  | [], _, hp, hs => ⟨hp, hs⟩
  | (name, value) :: rest, placed, hp, hs =>
    sortedMembers_sort rest (Named.place name value.sort placed)
      (Named.increasing_place name value.sort hp)
      (sortedMembers_place (sorted_sort value) hs)

end

end Json

/-- A JSON value held as data: names strictly increasing in every object. -/
structure Data where
  json : Json
  sorted : json.Sorted

namespace Data

instance : BEq Data := ⟨fun a b => a.json == b.json⟩

/-- The data of a JSON value. -/
def ofJson (json : Json) : Data := ⟨json.sort, json.sorted_sort⟩

end Data
end ApparatusGraph
