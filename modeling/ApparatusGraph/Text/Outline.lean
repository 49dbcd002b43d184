/-
# Outlines of values

An outline shows the make-up of a value on one line, for people who look into a
running program.

| outline | text |
| --- | --- |
| `word` | the word as it is |
| `quoted` | the text in quotes |
| `call` | the name, and the parts between round brackets |
| `list` | the parts between square brackets |
| `map` | names in quotes and parts between braces |
| `record` | the name, then fields between braces; `..` at the end when not all are shown |
-/

import ApparatusGraph.Named
import ApparatusGraph.Text.Quoted

namespace ApparatusGraph

/-- The make-up of a value. -/
inductive Outline where
  | word (s : String)
  | quoted (s : String)
  | call (name : String) (parts : List Outline)
  | list (parts : List Outline)
  | map (parts : List (String × Outline))
  | record (name : String) (fields : List (String × Outline)) (partly : Bool)

namespace Outline

/-- The outline of a number. -/
def nat (n : Nat) : Outline := .word (toString n)

/-- The outline of a flag. -/
def bool (b : Bool) : Outline := .word (if b then "true" else "false")

/-- The outline of a value that may be absent. -/
def option {α : Type} (f : α → Outline) : Option α → Outline
  | some a => .call "Some" [f a]
  | none => .word "None"

/-- The outline of a map. -/
def ofNamed {α : Type} (f : α → Outline) (m : Named α) : Outline :=
  .map (m.entries.map fun (name, a) => (name, f a))

mutual

/-- The text of an outline. -/
def render : Outline → String
  | .word s => s
  | .quoted s => Text.quoted s
  | .call name parts => name ++ "(" ++ ", ".intercalate (renderParts parts) ++ ")"
  | .list parts => "[" ++ ", ".intercalate (renderParts parts) ++ "]"
  | .map parts => "\x7b" ++ ", ".intercalate (renderEntries parts) ++ "\x7d"
  | .record name fields partly =>
    let shown := renderFields fields ++ if partly then [".."] else []
    if shown.isEmpty then name else name ++ " \x7b " ++ ", ".intercalate shown ++ " \x7d"

/-- The texts of parts. -/
def renderParts : List Outline → List String
  | [] => []
  | part :: rest => part.render :: renderParts rest

/-- The texts of the entries of a map. -/
def renderEntries : List (String × Outline) → List String
  | [] => []
  | (name, part) :: rest => (Text.quoted name ++ ": " ++ part.render) :: renderEntries rest

/-- The texts of the fields of a record. -/
def renderFields : List (String × Outline) → List String
  | [] => []
  | (name, part) :: rest => (name ++ ": " ++ part.render) :: renderFields rest

end

end Outline
end ApparatusGraph
