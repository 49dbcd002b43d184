/-
# Tables of TOML

A table grows while its document is read.  Who made it decides what may still be put
into it:

| standing | made by | may be named by a header | a dotted key may lead into it |
| --- | --- | --- | --- |
| `named` | its own header, or the document | no | no |
| `passed` | a longer header that leads through it | once | yes, but not end in it |
| `dotted` | a dotted key that leads through it | no | yes |

Of a list of tables only the last can still grow, so only that is kept.
-/

import ApparatusGraph.Toml.Scalar

namespace ApparatusGraph
namespace Toml

/-- Who made a table. -/
inductive Standing where
  | named
  | passed
  | dotted
  deriving DecidableEq

/-- What stands under a name. -/
inductive Item where
  | scalar (s : Scalar)
  /-- a text, a list or a table on one line: nothing can be put into it any more -/
  | whole
  | table (standing : Standing) (entries : List (String × Item))
  /-- a list of tables, of which the last is kept -/
  | tables (last : List (String × Item))

/-- A table and who made it. -/
structure Table where
  standing : Standing := .named
  entries : List (String × Item) := []

namespace Table

/-- What stands under a name. -/
def get? (t : Table) (name : String) : Option Item := t.entries.lookup name

/-- The entries with something else under a name; a new name comes last. -/
def put (name : String) (item : Item) : List (String × Item) → List (String × Item)
  | [] => [(name, item)]
  | (other, old) :: rest =>
    if other = name then (name, item) :: rest else (other, old) :: put name item rest

/-- The table with something else under a name. -/
def set (t : Table) (name : String) (item : Item) : Table :=
  { t with entries := put name item t.entries }

/-- The table as an item. -/
def toItem (t : Table) : Item := .table t.standing t.entries

/-- The table with what `change` makes of the table that a path leads to.  Tables that are not there
yet are made by the path; a dotted key leads into no table with a header of its own. -/
def alter (maker : Standing) (change : Table → Option Table) : List String → Table → Option Table
  | [], t => change t
  | name :: path, t => do
    let item ← match t.get? name with
      | none => toItem <$> alter maker change path ⟨maker, []⟩
      | some (.table standing entries) =>
        if maker = .dotted ∧ standing = .named then none
        else toItem <$> alter maker change path ⟨standing, entries⟩
      | some (.tables last) =>
        (fun u => Item.tables u.entries) <$> alter maker change path ⟨.named, last⟩
      | some _ => none
    some (t.set name item)

/-- The table with an item under the last name of a key; none when the name is taken or the key ends
in a table that its dots do not lead to. -/
def define (path : List String) (name : String) (item : Item) (t : Table) : Option Table :=
  alter .dotted (fun u =>
    if (u.standing = .dotted) = path.isEmpty then none
    else if (u.get? name).isSome then none
    else some (u.set name item)) path t

/-- The table after a header has named a table under `name`. -/
def openTable (name : String) (t : Table) : Option Table :=
  match t.get? name with
  | none => some (t.set name (.table .named []))
  | some (.table .passed entries) => some (t.set name (.table .named entries))
  | some _ => none

/-- The table after a header has begun another table of the list under `name`. -/
def openTables (name : String) (t : Table) : Option Table :=
  match t.get? name with
  | none => some (t.set name (.tables []))
  | some (.tables _) => some (t.set name (.tables []))
  | some _ => none

end Table
end Toml
end ApparatusGraph
