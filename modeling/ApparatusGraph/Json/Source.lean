/-
# JSON text as a tree

`Source` is a JSON text with its structure found and nothing decided: members of
an object stand in the order of writing, repeated names included.  `unreadable`
marks what is well formed but cannot be kept: a number too large for a double, a
string with half a surrogate pair, a container nested more than 127 deep.  A reader
may skip such a part and must refuse to keep it.

`Source.ofTokens?` is a machine that reads one token at a time and holds the
containers that are still open on a stack, so it is a fold over the tokens.
-/

import ApparatusGraph.Json.Token

namespace ApparatusGraph
namespace Json

/-- A JSON text as a tree. -/
inductive Source where
  | null
  | bool (b : Bool)
  | number (n : Number)
  | text (s : String)
  | list (items : List Source)
  | object (members : List (Option String × Source))
  | unreadable
  deriving Inhabited

/-- How many containers may stand inside one another in what is kept. -/
def maxDepth : Nat := 127

/-- A container that is still open, its parts newest first. -/
inductive Frame where
  | list (items : List Source)
  | object (members : List (Option String × Source))
  | member (members : List (Option String × Source)) (name : Option String)

/-- What may come next. -/
inductive Turn where
  /-- a value -/
  | value
  /-- a value, or the end of the list -/
  | firstItem
  /-- a name, or the end of the object -/
  | firstName
  /-- a name -/
  | name
  /-- a colon -/
  | colon
  /-- a comma, or the end of the innermost container -/
  | more

/-- The reading so far: open containers and what may come next, or the whole value. -/
inductive Reading where
  | going (turn : Turn) (stack : List Frame)
  | done (value : Source)

namespace Reading

/-- The reading after a value has come to its end. -/
def supply (value : Source) : List Frame → Option Reading
  | [] => some (.done value)
  | .list items :: rest => some (.going .more (.list (value :: items) :: rest))
  | .member members name :: rest => some (.going .more (.object ((name, value) :: members) :: rest))
  | .object _ :: _ => none

/-- Ends the innermost container. -/
def close : List Frame → Option Reading
  | .list items :: rest =>
    supply (if rest.length < maxDepth then .list items.reverse else .unreadable) rest
  | .object members :: rest =>
    supply (if rest.length < maxDepth then .object members.reverse else .unreadable) rest
  | _ => none

/-- The reading after a token that begins a value. -/
def begin (stack : List Frame) : Token → Option Reading
  | .null => supply .null stack
  | .bool b => supply (.bool b) stack
  | .number (some n) => supply (.number n) stack
  | .text (some s) => supply (.text s) stack
  | .number none => supply .unreadable stack
  | .text none => supply .unreadable stack
  | .openList => some (.going .firstItem (.list [] :: stack))
  | .openObject => some (.going .firstName (.object [] :: stack))
  | _ => none

/-- The reading after a name. -/
def named (name : Option String) : List Frame → Option Reading
  | .object members :: rest => some (.going .colon (.member members name :: rest))
  | _ => none

/-- The reading after a comma. -/
def another : List Frame → Option Reading
  | .list items :: rest => some (.going .value (.list items :: rest))
  | .object members :: rest => some (.going .name (.object members :: rest))
  | _ => none

/-- True when the innermost container is a list. -/
def inList : List Frame → Bool
  | .list _ :: _ => true
  | _ => false

/-- The reading after one more token; none where the token may not stand. -/
def step : Reading → Token → Option Reading
  | .going .firstItem stack, .closeList => close stack
  | .going .firstItem stack, token => begin stack token
  | .going .value stack, token => begin stack token
  | .going .firstName stack, .closeObject => close stack
  | .going .firstName stack, .text name => named name stack
  | .going .name stack, .text name => named name stack
  | .going .colon stack, .colon => some (.going .value stack)
  | .going .more stack, .comma => another stack
  | .going .more stack, .closeList => if inList stack then close stack else none
  | .going .more stack, .closeObject => if inList stack then none else close stack
  | _, _ => none

end Reading

namespace Source

/-- The tree of the tokens of one value. -/
def ofTokens? (ts : List Token) : Option Source :=
  match ts.foldlM Reading.step (.going .value []) with
  | some (.done value) => some value
  | _ => none

/-- The tree of a JSON text; none for what is no JSON text. -/
def parse? (s : String) : Option Source := tokens s.toList >>= ofTokens?

mutual

/-- The JSON value, if nothing in it is unreadable. -/
def keep? : Source → Option Json
  | null => some .null
  | bool b => some (.bool b)
  | number n => some (.number n)
  | text s => some (.text s)
  | list items => .list <$> keepItems? items
  | object members => .object <$> keepMembers? members
  | unreadable => none

/-- Keeps every item. -/
def keepItems? : List Source → Option (List Json)
  | [] => some []
  | item :: rest => do
    let kept ← item.keep?
    (kept :: ·) <$> keepItems? rest

/-- Keeps every member. -/
def keepMembers? : List (Option String × Source) → Option (List (String × Json))
  | [] => some []
  | (name, value) :: rest => do
    let name ← name
    let kept ← value.keep?
    ((name, kept) :: ·) <$> keepMembers? rest

end

/-- True when nothing in the tree is unreadable. -/
def keepable (s : Source) : Bool := s.keep?.isSome

end Source
end Json
end ApparatusGraph
