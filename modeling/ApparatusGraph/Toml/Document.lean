/-
# TOML documents

`Toml.document?` reads a whole text as a table and answers `none` for what is no TOML.

Reading is a fold of `Reading.step` over the tokens.  The state holds the document so
far, the header under which lines stand, and the lists and one-line tables that are
still open.
-/

import ApparatusGraph.Toml.Table
import ApparatusGraph.Toml.Token

namespace ApparatusGraph
namespace Toml

/-- How many lists and one-line tables stand inside one another, and how many names a key has: less
than this. -/
def nestingLimit : Nat := 80

/-! ## Keys -/

/-- A key as far as it is read: the names that a dot follows, and the name after them. -/
structure KeyText where
  before : List String := []
  last : Option String := none

namespace KeyText

/-- The key after one more name, for which a dot must have made room. -/
def name (k : KeyText) (s : String) : Option KeyText :=
  match k.last with
  | none => some { k with last := some s }
  | some _ => none

/-- The key after a dot, which must follow a name. -/
def dot (k : KeyText) : Option KeyText :=
  match k.last with
  | some s => some ⟨k.before ++ [s], none⟩
  | none => none

/-- True of the characters of bare names. -/
def isBare (c : Char) : Bool := c.isAlphanum || c = '-' || c = '_'

/-- The key after a word: bare names with dots between them, before them or after them. -/
def word (k : KeyText) (bare : List Char) : List Char → Option KeyText
  | [] => if bare.isEmpty then some k else k.name (.ofList bare)
  | '.' :: rest => do
    let k ← if bare.isEmpty then some k else k.name (.ofList bare)
    let k ← k.dot
    k.word [] rest
  | c :: rest => if isBare c then k.word (bare ++ [c]) rest else none

/-- The names before the last and the last name of a key that is complete. -/
def finish (k : KeyText) : Option (List String × String) :=
  match k.last with
  | some s => if k.before.length + 1 < nestingLimit then some (k.before, s) else none
  | none => none

end KeyText

/-! ## The machine -/

/-- What a key is for. -/
inductive Purpose where
  /-- a value follows -/
  | value
  /-- it names a table -/
  | table
  /-- it names a list of tables -/
  | tables

/-- What is still open: a list, or a one-line table with the key whose value is being read. -/
inductive Frame where
  | list
  | table (t : Table) (path : List String) (name : String)

/-- What may come next. -/
inductive Turn where
  /-- a new line -/
  | line
  /-- what follows the first bracket of a header -/
  | header
  /-- more of a key -/
  | key (purpose : Purpose) (k : KeyText)
  /-- the second closing bracket of a header -/
  | headerEnd
  /-- a value on the same line -/
  | value
  /-- an item of a list, or its end -/
  | item
  /-- a key of a one-line table, or its end -/
  | member
  /-- a comma, or the end of what is open -/
  | more
  /-- the end of the line -/
  | rest

/-- The reading so far. -/
structure Reading where
  root : Table := {}
  /-- the header under which lines stand -/
  header : List String := []
  /-- the key of the line -/
  path : List String := []
  name : String := ""
  stack : List Frame := []
  turn : Turn := .line

namespace Reading

/-- The reading after a value has come to its end. -/
def supply (r : Reading) (item : Item) : Option Reading :=
  match r.stack with
  | [] => do
    let root ← Table.alter .passed (Table.define r.path r.name item) r.header r.root
    some { r with root, turn := .rest }
  | .list :: _ => some { r with turn := .more }
  | .table t path name :: stack => do
    let t ← t.define path name item
    some { r with stack := .table t path name :: stack, turn := .more }

/-- The reading after a mark that opens a list or a one-line table. -/
def push (r : Reading) (frame : Frame) (turn : Turn) : Option Reading :=
  if r.stack.length + 1 < nestingLimit then some { r with stack := frame :: r.stack, turn }
  else none

/-- The reading after a token that begins a value. -/
def begin (r : Reading) : Token → Option Reading
  | .word cs => do
    let s ← Scalar.ofWord? cs
    r.supply (.scalar s)
  | .text _ => r.supply .whole
  | .block => r.supply .whole
  | .openList => r.push .list .item
  | .openTable => r.push (.table {} [] "") .member
  | _ => none

/-- The reading after a header under `path` and `name`. -/
def enter (r : Reading) (path : List String) (name : String) (change : Table → Option Table)
    (turn : Turn) : Option Reading := do
  let root ← Table.alter .passed change path r.root
  some { r with root, header := path ++ [name], turn }

/-- The reading after a key that a value follows. -/
def assign (r : Reading) (path : List String) (name : String) : Option Reading :=
  match r.stack with
  | [] => some { r with path, name, turn := .value }
  | .table t _ _ :: stack => some { r with stack := .table t path name :: stack, turn := .value }
  | .list :: _ => none

/-- The reading after one more token of a key. -/
def keyStep (r : Reading) (purpose : Purpose) (k : KeyText) : Token → Option Reading
  | .space => some { r with turn := .key purpose k }
  | .word cs => do
    let k ← k.word [] cs
    some { r with turn := .key purpose k }
  | .text s => do
    let k ← k.name s
    some { r with turn := .key purpose k }
  | .equals =>
    match purpose with
    | .value => do
      let (path, name) ← k.finish
      r.assign path name
    | _ => none
  | .closeList =>
    match purpose with
    | .value => none
    | .table => do
      let (path, name) ← k.finish
      r.enter path name (Table.openTable name) .rest
    | .tables => do
      let (path, name) ← k.finish
      r.enter path name (Table.openTables name) .headerEnd
  | _ => none

/-- The reading after the end of a list or a one-line table. -/
def close (r : Reading) : Option Reading :=
  match r.stack with
  | _ :: stack => { r with stack }.supply .whole
  | [] => none

/-- True when the innermost of what is open is a list. -/
def inList (r : Reading) : Bool :=
  match r.stack with
  | .list :: _ => true
  | _ => false

/-- The reading after a token that follows a value in a list. -/
def listStep (r : Reading) : Token → Option Reading
  | .space => some r
  | .lineEnd => some r
  | .comma => some { r with turn := .item }
  | .closeList => r.close
  | _ => none

/-- The reading after a token that follows a value in a one-line table. -/
def tableStep (r : Reading) : Token → Option Reading
  | .space => some r
  | .comma => some { r with turn := .key .value {} }
  | .closeTable => r.close
  | _ => none

/-- The reading after one more token; none where the token may not stand. -/
def step (r : Reading) (token : Token) : Option Reading :=
  match r.turn, token with
  | .line, .space => some r
  | .line, .lineEnd => some r
  | .line, .openList => some { r with turn := .header }
  | .line, token => r.keyStep .value {} token
  | .header, .openList => some { r with turn := .key .tables {} }
  | .header, token => r.keyStep .table {} token
  | .key purpose k, token => r.keyStep purpose k token
  | .headerEnd, .closeList => some { r with turn := .rest }
  | .value, .space => some r
  | .value, token => r.begin token
  | .item, .space => some r
  | .item, .lineEnd => some r
  | .item, .closeList => r.close
  | .item, token => r.begin token
  | .member, .space => some r
  | .member, .closeTable => r.close
  | .member, token => r.keyStep .value {} token
  | .more, token => if r.inList then r.listStep token else r.tableStep token
  | .rest, .space => some r
  | .rest, .lineEnd => some { r with turn := .line }
  | _, _ => none

/-- True when a document may end here. -/
def ends (r : Reading) : Bool :=
  match r.turn with
  | .line => true
  | .rest => true
  | _ => false

end Reading

/-- The table of a document, a byte order mark before it allowed. -/
def document? (s : String) : Option Table := do
  let cs := match s.toList with
    | '\uFEFF' :: rest => rest
    | cs => cs
  let r ← (← tokens cs).foldlM Reading.step {}
  if r.ends then some r.root else none

end Toml
end ApparatusGraph
